import GoLexicon.Text.Utf8
/-!
# Patterns

A pattern looks at the front of a source and says how many pieces it covers there, or that it does
not match. Patterns are put together as in the lexical grammar of the language; each covers as much
as it can.
-/

namespace GoLexicon.Go

/-- A source as the lexer sees it: code points, and runs of octets that write none. -/
abbrev Source := List Utf8.Piece

/-- How many pieces are covered at the front of a source, if the pattern matches there. -/
abbrev Pattern := Source → Option Nat

namespace Pattern

/-- One code point of a class. -/
def one (p : CodePoint → Bool) : Pattern
  | .point c :: _ => if p c then some 1 else none
  | _ => none

/-- One given code point. -/
def char (c : CodePoint) : Pattern := one (· = c)

/-- One piece that is neither NUL nor of a class. -/
def oneBut (p : CodePoint → Bool) : Pattern
  | .point c :: _ => if c.val = 0 || p c then none else some 1
  | .flaw _ _ :: _ => some 1
  | [] => none

/-- One pattern, and another one behind it. -/
def andThen (p q : Pattern) : Pattern := fun source => do
  let n ← p source
  let m ← q (source.drop n)
  return n + m

/-- A pattern that may be absent. -/
def maybe (p : Pattern) : Pattern := fun source => some ((p source).getD 0)

/-- The one of some patterns that covers the most. -/
def longest (ps : List Pattern) : Pattern := fun source =>
  (ps.filterMap (· source)).max?

/-- As many code points of a class as stand at the front, perhaps none. -/
def run (p : CodePoint → Bool) : Pattern := fun source =>
  some (source.takeWhile fun | .point c => p c | .flaw _ _ => false).length

/-- A given number of code points of a class. -/
def times (p : CodePoint → Bool) : Nat → Pattern
  | 0 => fun _ => some 0
  | n + 1 => andThen (one p) (times p n)

/-- A given text. -/
def text : Text → Pattern
  | [] => fun _ => some 0
  | c :: t => andThen (char c) (text t)

end Pattern

end GoLexicon.Go
