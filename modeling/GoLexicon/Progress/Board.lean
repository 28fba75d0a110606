import GoLexicon.Console.Markup
import GoLexicon.Fault
/-!
# A board of tasks

Each task has a label, a count and perhaps a total. A label is in the colour of the state that the
task is in, and its text is never taken for markup.
-/

namespace GoLexicon.Progress

/-- The state of a task. -/
inductive TaskState where
  | inProgress | complete | error
  deriving DecidableEq

/-- The colour of a state. -/
def TaskState.colour : TaskState → Text
  | inProgress => "magenta"
  | complete => "green"
  | error => "red"

/-- A text in the colour of a state. -/
def styled (s : TaskState) (t : Text) : Text := "[" ++ s.colour ++ "]" ++ Markup.escape t

/-- A task. -/
structure Task where
  label : Text
  completed : Int
  total : Option Int
  deriving DecidableEq

/-- The tasks of a board; a task is known by its place. -/
abbrev Board := List Task

namespace Board

/-- The board with one more task, in progress, of which nothing is completed. -/
def create (b : Board) (text : Text) (total : Option Int) : Board :=
  b ++ [⟨styled .inProgress text, 0, total⟩]

/-- There is no task at a place. -/
def noTask (task : Int) : Fault := .missingKey (Text.ofInt task)

/-- The board with one task changed. -/
def update (b : Board) (task : Int) (change : Task → Task) : Except Fault Board :=
  match task with
  | .ofNat n => if n < b.length then .ok (b.modify n change) else .error (noTask task)
  | .negSucc _ => .error (noTask task)

/-- The board with a task some steps further. -/
def advance (b : Board) (task : Int) (steps : Int) : Except Fault Board :=
  b.update task fun t => { t with completed := t.completed + steps }

/-- The board with a task in a state, with a text, and with a count and a total if given. -/
def set (b : Board) (task : Int) (s : TaskState) (text : Text) (completed total : Option Int) :
    Except Fault Board :=
  b.update task fun t => ⟨styled s text, completed.getD t.completed, total <|> t.total⟩

end Board

end GoLexicon.Progress
