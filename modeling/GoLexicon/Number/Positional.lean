import GoLexicon.Number.Shortest
/-!
# Floating-point numbers as text

A number is shown with the fewest digits that read back. The digits stand around a point, which is
never left out, where the first digit counts at least `10 ^ -4` and less than `10 ^ 16`; beyond,
the number has one digit before the point, no point if it has no other, and an exponent of at least
two digits with its sign.
-/

namespace GoLexicon.Binary64

/-- How a decimal is shown. -/
def Decimal.shown (d : Decimal) : Text :=
  let digits := Text.ofNat d.digits
  let first : Int := digits.length + d.scale - 1
  let zeros (n : Nat) : Text := List.replicate n '0'
  if first < -4 || 16 ≤ first then
    let size := Text.ofNat first.natAbs
    let point : Text := if digits.length = 1 then [] else "."
    let sign : Text := if first < 0 then "-" else "+"
    digits.take 1 ++ point ++ digits.drop 1 ++ "e" ++ sign ++ zeros (2 - size.length) ++ size
  else if first < 0 then "0." ++ zeros (-first - 1).toNat ++ digits
  else
    let whole := digits.take (first.toNat + 1) ++ zeros (first.toNat + 1 - digits.length)
    let rest := digits.drop (first.toNat + 1)
    whole ++ "." ++ (if rest.isEmpty then zeros 1 else rest)

/-- The mark of a negative number. -/
def mark (negative : Bool) : Text := if negative then "-" else []

/-- How a number is shown; the words for what is not finite are given. -/
def shown (infinity notANumber : Text) : Binary64 → Text
  | finite negative 0 _ => mark negative ++ "0.0"
  | finite negative significand exponent => mark negative ++ (shortest significand exponent).shown
  | infinite negative => mark negative ++ infinity
  | nan => notANumber

end GoLexicon.Binary64
