import GoLexicon.Number.Binary64
/-!
# The fewest digits that read back

A floating-point number is shown with the fewest decimal digits from which rounding recovers it, and
of those with the digits nearest to it. For each count of digits it is enough to try the two
neighbours of the number on the grid of that many digits.
-/

namespace GoLexicon.Binary64

/-- A decimal: `digits * 10 ^ scale`. -/
structure Decimal where
  digits : Nat
  scale : Int

/-- A finite number's magnitude as a quotient. -/
def quotient (significand : Nat) (exponent : Int) : Nat × Nat :=
  timesPower 2 significand 1 exponent

/-- The neighbour below on the grid of multiples of `10 ^ scale`, with twice the rest and the step,
both over one denominator, so that they can be compared. -/
def below (num den : Nat) (scale : Int) : Nat × Nat × Nat :=
  let (n, d) := timesPower 10 num den (-scale)
  (n / d, 2 * (n % d), d)

/-- The nearest of the two neighbours on a grid that reads back, if one does. -/
def onGrid (significand : Nat) (exponent : Int) (scale : Int) : Option Decimal :=
  let (num, den) := quotient significand exponent
  let (low, twice, step) := below num den scale
  let readsBack (digits : Nat) : Bool :=
    ofDecimal false digits scale = .finite false significand exponent
  let lowFirst := twice < step || (twice = step && low % 2 = 0)
  let candidates := if lowFirst then [low, low + 1] else [low + 1, low]
  (candidates.find? readsBack).map (⟨·, scale⟩)

/-- The decimal exponent of the first digit of a positive quotient. -/
def firstDigit (num den : Nat) : Int :=
  let guess : Int := ((Nat.toDigits 10 num).length : Int) - (Nat.toDigits 10 den).length
  let (n, d) := timesPower 10 num den (-guess)
  if n < d then guess - 1 else guess

/-- The shortest decimal that reads back as a positive finite number. Seventeen digits always do.
The neighbour above nine on the first grid is the next power of ten, which one digit writes. -/
def shortest (significand : Nat) (exponent : Int) : Decimal :=
  let (num, den) := quotient significand exponent
  let first := firstDigit num den
  let found := (List.range 17).findSome? fun (further : Nat) =>
    onGrid significand exponent (first - further)
  match found with
  | some decimal => if decimal.digits = 10 then ⟨1, decimal.scale + 1⟩ else decimal
  | none => ⟨(below num den (first - 16)).1, first - 16⟩

end GoLexicon.Binary64
