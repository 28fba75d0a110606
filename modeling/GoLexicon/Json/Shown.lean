import GoLexicon.Json.Basic
import GoLexicon.Number.Positional
import GoLexicon.Text.Quoted
/-!
# JSON values in messages

How a value is shown where a message mentions it: texts quoted, lists in brackets, objects in
braces.
-/

namespace GoLexicon.Json

mutual

/-- A value as a message shows it. -/
def shown : Json → Text
  | null => "None"
  | bool b => if b then "True" else "False"
  | integer n => Text.ofInt n
  | number x => x.shown "inf" "nan"
  | text t => t.quoted
  | list items => "[" ++ Text.joined ", " (itemsShown items) ++ "]"
  | object members => "\x7b" ++ Text.joined ", " (membersShown members) ++ "\x7d"

/-- The values of a list. -/
def itemsShown : List Json → List Text
  | [] => []
  | v :: rest => shown v :: itemsShown rest

/-- The members of an object. -/
def membersShown : List (Text × Json) → List Text
  | [] => []
  | (name, v) :: rest => (name.quoted ++ ": " ++ shown v) :: membersShown rest

end

/-- A value as it is printed by itself: a text without quotes. -/
def plain : Json → Text
  | text t => t
  | v => v.shown

end GoLexicon.Json
