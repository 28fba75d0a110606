import GoLexicon.Progress.Board
import GoLexicon.Scan.Event
/-!
# The display of a scan

A display shows how far a scan is, on a board with one task. The number of packages is not known
beforehand, so the task has no total until the scan is finished.

A display is used inside its context. It keeps its board when the context is left, and its task when
it is entered again.
-/

namespace GoLexicon.Progress

/-- A display: its board, once it has been entered, and its task, once a scan has started. -/
structure Display where
  board : Option Board
  task : Option Nat

namespace Display

/-- A display that has not been used. -/
def fresh : Display := ⟨none, none⟩

/-- The label of a scan that begins. -/
def startLabel : Text := "Scanning standard library..."

/-- The label of a scan that failed. -/
def abortLabel : Text := "Scan aborted"

/-- An event comes before the scan has started. -/
def notStarted (event : Text) : Fault :=
  .misuse ("scan_started() must be called before " ++ event ++ "()")

/-- A scan starts outside the context. -/
def notEntered : Fault :=
  .misuse ("RichProgressDisplay must be used as a context manager. "
    ++ Text.ofString "Use: with RichProgressDisplay() as display:")

/-- The context is entered: the board is new. -/
def enter (d : Display) : Display := { d with board := some [] }

/-- Changes the task of a display. -/
def onTask (d : Display) (event : Text) (change : Board → Int → Except Fault Board) :
    Except Fault Display :=
  match d.board, d.task with
  | some board, some task => do
    let board ← change board task
    return { d with board := some board }
  | _, _ => .error (notStarted event)

/-- The context is left, by a failure or not. -/
def leave (d : Display) (failed : Bool) : Except Fault Display :=
  match d.board, d.task with
  | some board, some task =>
    if failed then do
      let board ← board.set task .error abortLabel none none
      return { d with board := some board }
    else .ok d
  | _, _ => .ok d

/-- A scan starts. -/
def start (d : Display) : Except Fault Display :=
  match d.board with
  | none => .error notEntered
  | some board => .ok ⟨some (board.create startLabel none), some board.length⟩

/-- A package is begun. -/
def packageStarted (d : Display) (importPath : Text) : Except Fault Display :=
  d.onTask "package_started" fun board task =>
    board.set task .inProgress ("Scanning " ++ importPath) none none

/-- A package is finished. -/
def packageFinished (d : Display) : Except Fault Display :=
  d.onTask "package_finished" fun board task => board.advance task 1

/-- The label of a scan that is finished. -/
def finishLabel (packages words : Int) : Text :=
  "Scanned " ++ Text.ofInt packages ++ " packages, " ++ Text.ofInt words ++ " words."

/-- A scan is finished. -/
def finish (d : Display) (packages words : Int) : Except Fault Display :=
  d.onTask "scan_finished" fun board task =>
    board.set task .complete (finishLabel packages words) (some packages) (some packages)

/-- What an event of a scan does to a display. -/
def handle (d : Display) : Event → Except Fault Display
  | .entered => .ok d.enter
  | .scanStarted => d.start
  | .packageStarted importPath => d.packageStarted importPath.plain
  | .packageFinished _ => d.packageFinished
  | .scanFinished packages words => d.finish packages words
  | .left failure => d.leave failure.isSome
  | _ => .ok d

/-- What the events of a scan do to a display, one after the other. -/
def follow (d : Display) (events : List Event) : Except Fault Display := events.foldlM handle d

end Display

/-- What a display leaves on the console once it has been entered and left. -/
def trail : Text := "\n"

end GoLexicon.Progress
