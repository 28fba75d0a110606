import GoLexicon.Json.Basic
import GoLexicon.Number.Positional
/-!
# Writing JSON

A value is written on one line, with a blank behind each comma and each colon. In a string the
quote, the backslash and the controls are escaped; what else is escaped depends on who is to read
it: nothing (`Json.written`), or all that is not printable ASCII (`Json.writtenAscii`), a character
beyond the first plane as two code units.
-/

namespace GoLexicon.Json

/-- One code unit, escaped. -/
def escapedUnit (n : Nat) : Text := "\\u" ++ Text.hex 4 n

/-- A code point by its code units, escaped. -/
def escapedPoint (c : CodePoint) : Text :=
  if c.val < 0x10000 then escapedUnit c.val
  else
    let offset := c.val - 0x10000
    escapedUnit (0xD800 + offset / 0x400) ++ escapedUnit (0xDC00 + offset % 0x400)

/-- A code point inside a string; `plain` says which may stand for themselves. -/
def inString (plain : CodePoint → Bool) (c : CodePoint) : Text :=
  if c = '"' then "\\\""
  else if c = '\\' then "\\\\"
  else if c = '\n' then "\\n"
  else if c = '\r' then "\\r"
  else if c = '\t' then "\\t"
  else if c = '\x0c' then "\\f"
  else if c = '\x08' then "\\b"
  else if c.val < 0x20 || !plain c then escapedPoint c
  else [c]

/-- A string between quotes. -/
def stringWritten (plain : CodePoint → Bool) (t : Text) : Text :=
  "\"" ++ t.flatMap (inString plain) ++ "\""

mutual

/-- A value as text. -/
def writtenWith (plain : CodePoint → Bool) : Json → Text
  | null => "null"
  | bool b => if b then "true" else "false"
  | integer n => Text.ofInt n
  | number x => x.shown "Infinity" "NaN"
  | text t => stringWritten plain t
  | list items => "[" ++ Text.joined ", " (itemsWritten plain items) ++ "]"
  | object members => "\x7b" ++ Text.joined ", " (membersWritten plain members) ++ "\x7d"

/-- The values of a list, each as text. -/
def itemsWritten (plain : CodePoint → Bool) : List Json → List Text
  | [] => []
  | v :: rest => writtenWith plain v :: itemsWritten plain rest

/-- The members of an object, each as text. -/
def membersWritten (plain : CodePoint → Bool) : List (Text × Json) → List Text
  | [] => []
  | (name, v) :: rest =>
    (stringWritten plain name ++ ": " ++ writtenWith plain v) :: membersWritten plain rest

end

/-- A value as text in which strings show every character that can stand in a string. -/
def written (v : Json) : Text := writtenWith (fun _ => true) v

/-- A value as text in ASCII. -/
def writtenAscii (v : Json) : Text := writtenWith (fun c => c.val < 0x7F) v

end GoLexicon.Json
