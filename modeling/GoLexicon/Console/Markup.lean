import GoLexicon.Text.Basic
/-!
# Markup

In a text with markup a tag switches a style on or off: a bracket, then a small letter or one of
`#`, `/`, `@`, and all up to the next closing bracket, with no other opening one between.
Backslashes in front of a tag escape it: of an odd number the last one makes the tag a plain text,
and of the rest each second one is left.

`escape` makes a text that shows any given text, and `shown` is what a text with markup shows.
-/

namespace GoLexicon.Markup

/-- Can the code point behind a bracket begin a tag? -/
def beginsTag (c : CodePoint) : Bool := c.isSmall || c = '#' || c = '/' || c = '@'

/-- Does a closing bracket come before any opening one? -/
def closes : Text → Bool
  | [] => false
  | c :: rest => c = ']' || (c ≠ '[' && closes rest)

/-- Is the bracket in front of a text the beginning of a tag? -/
def opensTag : Text → Bool
  | [] => false
  | c :: rest => beginsTag c && closes rest

/-- A number of backslashes. -/
def backslashes (n : Nat) : Text := List.replicate n '\\'

/-- A text behind some backslashes, with every tag escaped. -/
def escapeFrom (slashes : Nat) : Text → Text
  | [] => backslashes slashes
  | c :: rest =>
    if c = '\\' then escapeFrom (slashes + 1) rest
    else if c = '[' && opensTag rest then backslashes (2 * slashes + 1) ++ c :: escapeFrom 0 rest
    else backslashes slashes ++ c :: escapeFrom 0 rest

/-- Does a text end in exactly one backslash? -/
def endsInOneBackslash (t : Text) : Bool :=
  (t.reverse.takeWhile (· = CodePoint.ofChar '\\')).length = 1

/-- A text that shows a given text. A single backslash at the end is doubled, so that it does not
escape a tag that is put behind it. -/
def escape (t : Text) : Text :=
  let escaped := escapeFrom 0 t
  if endsInOneBackslash escaped then escaped ++ backslashes 1 else escaped

/-- What the rest of a text shows, behind some backslashes, or inside a tag. A backslash in front of
a bracket that begins no tag is left out. -/
def shownFrom (slashes : Nat) (inTag : Bool) : Text → Text
  | [] => backslashes slashes
  | c :: rest =>
    if inTag then shownFrom 0 (c ≠ ']') rest
    else if c = '\\' then shownFrom (slashes + 1) false rest
    else if c = '[' then
      if opensTag rest then
        if slashes % 2 = 0 then backslashes (slashes / 2) ++ shownFrom 0 true rest
        else backslashes (slashes / 2) ++ c :: shownFrom 0 false rest
      else backslashes (slashes - 1) ++ c :: shownFrom 0 false rest
    else backslashes slashes ++ c :: shownFrom 0 false rest

/-- What a text with markup shows. -/
def shown (t : Text) : Text := shownFrom 0 false t

end GoLexicon.Markup
