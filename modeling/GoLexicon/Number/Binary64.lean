import GoLexicon.Text.Basic
/-!
# Binary floating-point numbers

A number is zero or a significand of at most 53 bits times a power of two, signed, or an infinity,
or no number. `ofDecimal` rounds a decimal once, to the nearest such number and from the middle to
the even significand; what is too large becomes an infinity.
-/

namespace GoLexicon

/-- A binary floating-point number of 64 bits. In `finite` the significand is below `2 ^ 53`, and at
least `2 ^ 52` unless the exponent is the least one, `-1074`. -/
inductive Binary64 where
  | finite (negative : Bool) (significand : Nat) (exponent : Int)
  | infinite (negative : Bool)
  | nan
  deriving DecidableEq, Repr

namespace Binary64

/-- A quotient rounded to the nearest integer, from the middle to the even one. -/
def roundQuotient (numerator denominator : Nat) : Nat :=
  let q := numerator / denominator
  let twice := 2 * (numerator % denominator)
  if twice < denominator then q
  else if denominator < twice then q + 1
  else q + q % 2

/-- The quotient `numerator / denominator * base ^ exponent`. -/
def timesPower (base numerator denominator : Nat) (exponent : Int) : Nat × Nat :=
  if 0 ≤ exponent then (numerator * Nat.pow base exponent.toNat, denominator)
  else (numerator, denominator * Nat.pow base (-exponent).toNat)

/-- The positive number `numerator / denominator`, rounded. -/
def ofQuotient (negative : Bool) (numerator denominator : Nat) : Binary64 :=
  let guess : Int := (numerator.log2 : Int) - denominator.log2
  let scaled (e : Int) : Nat × Nat := timesPower 2 numerator denominator (-e)
  -- The quotient lies between `2 ^ (guess - 1)` and `2 ^ (guess + 1)`.
  let log := if (scaled guess).1 < (scaled guess).2 then guess - 1 else guess
  let exponent := max (log - 52) (-1074)
  let significand := roundQuotient (scaled exponent).1 (scaled exponent).2
  let (significand, exponent) :=
    if significand = Nat.pow 2 53 then (Nat.pow 2 52, exponent + 1) else (significand, exponent)
  if 971 < exponent then .infinite negative else .finite negative significand exponent

/-- The number `digits * 10 ^ scale`, rounded. A scale that is far out of range decides alone. -/
def ofDecimal (negative : Bool) (digits : Nat) (scale : Int) : Binary64 :=
  let magnitude := ((Nat.toDigits 10 digits).length : Int) + scale
  if digits = 0 || magnitude < -400 then .finite negative 0 (-1074)
  else if 400 < magnitude then .infinite negative
  else
    let (numerator, denominator) := timesPower 10 digits 1 scale
    ofQuotient negative numerator denominator

/-- Is the number zero, of either sign? -/
def isZero : Binary64 → Bool
  | finite _ significand _ => significand = 0
  | _ => false

/-- The integer that a number is equal to, if there is one. -/
def toInt? : Binary64 → Option Int
  | finite negative significand exponent =>
    let sign : Int := if negative then -1 else 1
    let (numerator, denominator) := timesPower 2 significand 1 exponent
    if numerator % denominator = 0 then some (sign * (numerator / denominator : Nat)) else none
  | _ => none

/-- A finite number as a fraction with a positive denominator. -/
def fraction? : Binary64 → Option (Int × Nat)
  | finite negative significand exponent =>
    let sign : Int := if negative then -1 else 1
    let (numerator, denominator) := timesPower 2 significand 1 exponent
    some (sign * numerator, denominator)
  | _ => none

/-- Equality of values: zeros of both signs are equal, and what is no number equals nothing. -/
def same : Binary64 → Binary64 → Bool
  | nan, _ | _, nan => false
  | a, b => a = b || (a.isZero && b.isZero)

end Binary64

end GoLexicon
