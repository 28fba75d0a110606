import GoLexicon.Word.Set
/-!
# The word list as text

The words of a set in order, a line for each, every line with its end.
-/

namespace GoLexicon

/-- Words as text, a line for each. -/
def render (words : List Text) : Text := words.flatMap (· ++ "\n")

/-- The words of a set in order, and the text that shows them. -/
def WordSet.report (s : WordSet) : Except Fault (List Json × Text) := do
  let words ← s.sorted
  return (words, render (words.map (·.plain)))

end GoLexicon
