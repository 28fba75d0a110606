import GoLexicon.Text.Basic
/-!
# Classes of code points

A class given by a standard is a table of ranges, first and last code point of each. The ranges of
a table ascend and do not touch, so the first range that does not end before a code point decides
whether the code point belongs to the class.
-/

namespace GoLexicon

/-- A class of code points, as ascending ranges (first and last). -/
abbrev Ranges := List (Nat × Nat)

namespace Ranges

/-- Does a number lie in one of the ranges? -/
def has : Ranges → Nat → Bool
  | [], _ => false
  | (low, high) :: rest, n => if n ≤ high then low ≤ n else has rest n

end Ranges

end GoLexicon
