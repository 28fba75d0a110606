/-!
# Text

A text is a list of code points. Surrogates are code points too: a JSON escape can name one, and
such a text can be kept, compared and shown, but not encoded (`Text.IsScalar` says which texts
can). Texts are ordered code point by code point, a text before its continuations; this is the
order of `List` on code points.
-/

namespace GoLexicon

/-- A code point: a number below `0x110000`, surrogates included. -/
abbrev CodePoint := Fin 0x110000

/-- A list of code points. -/
abbrev Text := List CodePoint

/-- Raw octets, as files and programs give them. -/
abbrev Bytes := List UInt8

namespace CodePoint

/-- The code point of a number, which is taken modulo the number of all code points. -/
def ofNat (n : Nat) : CodePoint := Fin.ofNat 0x110000 n

/-- The code point of a character. -/
def ofChar (c : Char) : CodePoint := ofNat c.toNat

instance : Coe Char CodePoint := ⟨ofChar⟩

/-- Half of a pair, standing alone: no character, and no encoding. -/
def isSurrogate (c : CodePoint) : Bool := 0xD800 ≤ c.val && c.val < 0xE000

/-- An ASCII digit. -/
def isDigit (c : CodePoint) : Bool := 0x30 ≤ c.val && c.val ≤ 0x39

/-- An ASCII capital. -/
def isCapital (c : CodePoint) : Bool := 0x41 ≤ c.val && c.val ≤ 0x5A

/-- A small ASCII letter. -/
def isSmall (c : CodePoint) : Bool := 0x61 ≤ c.val && c.val ≤ 0x7A

/-- An ASCII letter. -/
def isLetter (c : CodePoint) : Bool := c.isCapital || c.isSmall

/-- The small letter of an ASCII capital; any other code point stays. -/
def toSmall (c : CodePoint) : CodePoint := if c.isCapital then ofNat (c.val + 0x20) else c

/-- The value of a hexadecimal digit. -/
def hexValue? (c : CodePoint) : Option Nat :=
  if c.isDigit then some (c.val - 0x30)
  else if 0x41 ≤ c.val && c.val ≤ 0x46 then some (c.val - 0x41 + 10)
  else if 0x61 ≤ c.val && c.val ≤ 0x66 then some (c.val - 0x61 + 10)
  else none

end CodePoint

namespace Text

/-- The code points of a string. -/
def ofString (s : String) : Text := s.toList.map CodePoint.ofChar

instance : Coe String Text := ⟨ofString⟩

/-- The text holds characters only, no lone surrogate. -/
def IsScalar (t : Text) : Prop := ∀ c ∈ t, c.isSurrogate = false

instance (c : CodePoint) (t : Text) : Decidable (c ∈ t) := List.instDecidableMemOfLawfulBEq c t

instance (t : Text) (ts : List Text) : Decidable (t ∈ ts) := List.instDecidableMemOfLawfulBEq t ts

instance (t : Text) : Decidable t.IsScalar :=
  inferInstanceAs (Decidable (∀ c ∈ t, c.isSurrogate = false))

/-- Does a text come before another one, or equal it? -/
def isAtMost (t u : Text) : Bool := !decide (u < t)

/-- The texts one after the other, with `separator` between neighbours. -/
def joined (separator : Text) (ts : List Text) : Text := List.intercalate separator ts

/-- Does `part` occur in the text, as a run of neighbours? -/
def occursIn (part : Text) : Text → Bool
  | [] => part.isEmpty
  | c :: rest => part.isPrefixOf (c :: rest) || occursIn part rest

/-- Decimal digits of a number, the fewest. -/
def ofNat (n : Nat) : Text := (Nat.toDigits 10 n).map CodePoint.ofChar

/-- Decimal digits of an integer, with a minus sign if it is negative. -/
def ofInt : Int → Text
  | .ofNat n => ofNat n
  | .negSucc n => "-" ++ ofNat (n + 1)

/-- A number in small hexadecimal digits, with zeros in front up to `width` digits. -/
def hex (width n : Nat) : Text :=
  let digits := (Nat.toDigits 16 n).map CodePoint.ofChar
  List.replicate (width - digits.length) (CodePoint.ofChar '0') ++ digits

/-- The parts of a text between the places where `separator` stands; one more than there are such
places. -/
def splitAt (separator : CodePoint) : Text → List Text
  | [] => [[]]
  | c :: rest =>
    if c = separator then [] :: splitAt separator rest
    else match splitAt separator rest with
      | [] => [[c]]
      | part :: parts => (c :: part) :: parts

end Text

end GoLexicon
