import GoLexicon.Go.Pattern
/-!
# Literals of Go

Numbers, characters and strings as the lexical grammar of the language gives them. A number is
covered as far as one of its forms goes, so `0b12` is the number `0b1` with a `2` behind it, and the
`8` of `08` is not part of a number, but `08i` and `09.5` are numbers.
-/

namespace GoLexicon.Go.Pattern

/-- A binary digit. -/
def isBinaryDigit (c : CodePoint) : Bool := c = '0' || c = '1'

/-- An octal digit. -/
def isOctalDigit (c : CodePoint) : Bool := 0x30 ≤ c.val && c.val ≤ 0x37

/-- A hexadecimal digit. -/
def isHexDigit (c : CodePoint) : Bool := c.hexValue?.isSome

/-- How much of a source goes on with digits of a class, each with an underscore in front or
without. -/
def furtherDigits (p : CodePoint → Bool) : Source → Nat
  | .point c :: rest =>
    if p c then 1 + furtherDigits p rest
    else match rest with
      | .point d :: rest' => if c = '_' && p d then 2 + furtherDigits p rest' else 0
      | _ => 0
  | _ => 0

/-- Digits of a class, with single underscores between them. -/
def digits (p : CodePoint → Bool) : Pattern :=
  andThen (one p) (fun source => some (furtherDigits p source))

/-- An underscore, or nothing. -/
def underscore? : Pattern := maybe (char '_')

/-- Decimal digits. -/
def decimals : Pattern := digits (·.isDigit)

/-- Hexadecimal digits. -/
def hexDigits : Pattern := digits isHexDigit

/-- An integer in base sixteen, ten, eight or two. -/
def integer : Pattern := longest [
  andThen (char '0') (andThen (one fun c => c = 'x' || c = 'X') (andThen underscore? hexDigits)),
  char '0',
  andThen (one fun c => c.isDigit && c ≠ '0')
    (fun source => some (furtherDigits (·.isDigit) source)),
  andThen (char '0') (andThen (maybe (one fun c => c = 'o' || c = 'O'))
    (andThen underscore? (digits isOctalDigit))),
  andThen (char '0') (andThen (one fun c => c = 'b' || c = 'B')
    (andThen underscore? (digits isBinaryDigit)))]

/-- An exponent: a letter, perhaps a sign, and decimal digits. -/
def exponent (letter : CodePoint → Bool) : Pattern :=
  andThen (one letter) (andThen (maybe (one fun c => c = '+' || c = '-')) decimals)

/-- A decimal exponent. -/
def decimalExponent : Pattern := exponent fun c => c = 'e' || c = 'E'

/-- A floating-point number. In base sixteen the exponent may not be left out. -/
def floating : Pattern := longest [
  andThen decimals (andThen (char '.') (andThen (maybe decimals) (maybe decimalExponent))),
  andThen decimals decimalExponent,
  andThen (char '.') (andThen decimals (maybe decimalExponent)),
  andThen (char '0') (andThen (one fun c => c = 'x' || c = 'X') (andThen
    (longest [
      andThen underscore? (andThen hexDigits (andThen (char '.') (maybe hexDigits))),
      andThen underscore? hexDigits,
      andThen (char '.') hexDigits])
    (exponent fun c => c = 'p' || c = 'P')))]

/-- A number: an integer, a floating-point number, or an imaginary number made of either. -/
def number : Pattern := longest [
  integer, floating,
  andThen decimals (char 'i'), andThen integer (char 'i'), andThen floating (char 'i')]

/-- What stands behind the backslash in a character literal. -/
def runeEscape : Pattern := longest [
  andThen (char 'x') (times isHexDigit 2),
  times isOctalDigit 3,
  andThen (char 'u') (times isHexDigit 4),
  andThen (char 'U') (times isHexDigit 8),
  one fun c => ("abfnrtv\\'\"" : Text).elem c]

/-- A character between quotes. -/
def rune : Pattern :=
  andThen (char '\'') (andThen
    (longest [oneBut fun c => c = '\'' || c = '\\', andThen (char '\\') runeEscape])
    (char '\''))

/-- A raw string, from one backquote to the next. -/
def rawString : Pattern :=
  andThen (char '\x60') (andThen
    (fun source => some (source.takeWhile fun
      | .point c => c.val ≠ 0 && c ≠ '\x60'
      | .flaw _ _ => true).length)
    (char '\x60'))

/-- The rest of an interpreted string, behind its first quote. Behind a backslash, `x`, `u` and `U`
want their hexadecimal digits, and any other character will do, a line end too. -/
def restOfString : Pattern
  | [] => none
  | .flaw _ _ :: rest => (restOfString rest).map (· + 1)
  | .point c :: rest =>
    if c = '"' then some 1
    else if c = '\n' || c = 0 then none
    else if c = '\\' then
      match rest with
      | [] => none
      | .flaw _ _ :: rest' => (restOfString rest').map (· + 2)
      | .point d :: rest' =>
        let wanted := if d = 'x' then 2 else if d = 'u' then 4 else if d = 'U' then 8 else 0
        if d = 0 || (times isHexDigit wanted rest').isNone then none
        else (restOfString rest').map (· + 2)
    else (restOfString rest).map (· + 1)

/-- A string literal. -/
def string : Pattern := longest [rawString, andThen (char '"') restOfString]

end GoLexicon.Go.Pattern
