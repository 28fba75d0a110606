import GoLexicon.Console.Markup
import GoLexicon.Text.CellWidth
/-!
# Printed text

What a console prints of a text: controls that would move the cursor back or sound a bell are left
out, and a tab goes on to the next multiple of eight cells.
-/

namespace GoLexicon.Console

/-- Controls that are left out. -/
def isDropped (c : CodePoint) : Bool :=
  c.val = 0x07 || c.val = 0x08 || c.val = 0x0B || c.val = 0x0C || c.val = 0x0D

/-- How many cells there are between tab stops. -/
def tabWidth : Nat := 8

/-- A text from a cell on, with blanks in the place of tabs. -/
def expandFrom (cell : Nat) : Text → Text
  | [] => []
  | c :: rest =>
    if c = '\n' then c :: expandFrom 0 rest
    else if c = '\t' then
      let blanks := tabWidth - cell % tabWidth
      List.replicate blanks (CodePoint.ofChar ' ') ++ expandFrom (cell + blanks) rest
    else c :: expandFrom (cell + c.cells) rest

/-- What is printed of a text. -/
def printed (t : Text) : Text := expandFrom 0 (t.filter (!isDropped ·))

/-- A line that shows a text as it is. -/
def line (t : Text) : Text := printed t ++ "\n"

/-- A line that shows a text with markup. -/
def markupLine (t : Text) : Text := printed (Markup.shown t) ++ "\n"

/-! ## Debug output -/

/-- What debug output prints of some values, with a separator between them and an ending: nothing
where it is off. -/
def debug (on : Bool) (separator ending : Text) (values : List Text) : Text :=
  if !on then []
  else if values.isEmpty then ending
  else printed ("DEBUG: " ++ Text.joined separator values) ++ ending

/-- A line of debug output. -/
def debugLine (on : Bool) (t : Text) : Text := debug on " " "\n" [t]

end GoLexicon.Console
