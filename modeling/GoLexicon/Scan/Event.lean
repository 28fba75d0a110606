import GoLexicon.Package.Basic
import GoLexicon.Word.Set
/-!
# What happens during a scan

A scan asks its catalog and its extractor, tells a display how far it is, and notes what it does.
All of this is an `Event`, and the events in order are the trace of the scan.

A `Guide` answers the questions. Its answers may depend on everything that happened before, so it
can stand for any catalog and any extractor, also for ones that fail now and then.
-/

namespace GoLexicon

/-- Something that happens during a scan. -/
inductive Event where
  /-- The catalog is asked for its import paths. -/
  | listed
  /-- The catalog is asked for the package of an import path. -/
  | resolved (importPath : Text)
  /-- The extractor is asked for the names in a file. -/
  | extracted (path : Path)
  /-- The display is entered. -/
  | entered
  | scanStarted
  | packageStarted (importPath : Json)
  | packageFinished (importPath : Json)
  | scanFinished (packages words : Nat)
  /-- The display is left, on account of a failure if there is one. -/
  | left (failure : Option Failure)
  /-- An import path is passed over. -/
  | skipped (importPath : Text)
  /-- A package is about to be scanned. -/
  | processing (importPath : Json)
  /-- A word is about to be added that is not in the set. -/
  | adding (word : Text)

/-- What answers the questions of a scan, by the events before it, the latest first. -/
structure Guide where
  list : List Event → Except Failure (List Text)
  resolve : List Event → Text → Except Failure Package
  extract : List Event → Path → Except Failure (List Text)

/-- The guide whose answers depend on nothing but the question. -/
def Guide.of (catalog : Catalog) (extract : Path → Except Failure (List Text)) : Guide where
  list _ := catalog.list
  resolve _ := catalog.resolve
  extract _ := extract

/-- What a scan has got so far. -/
structure Record where
  words : WordSet
  /-- How many packages are finished. -/
  finished : Nat
  /-- What happened, the latest first. -/
  events : List Event

/-- A part of a scan: it goes on with the record, also where it fails. -/
abbrev Scan := ExceptT Failure (StateM Record)

namespace Scan

/-- What a part of a scan comes to, and the record behind it. -/
def perform {α : Type} (part : Scan α) (r : Record) : Except Failure α × Record :=
  StateT.run (ExceptT.run part) r

/-- Something happens. -/
def happens (e : Event) : Scan Unit := modify fun r => { r with events := e :: r.events }

/-- A question to the guide; its answer depends on what happened before. -/
def ask {α : Type} (question : Event) (answer : List Event → Except Failure α) : Scan α := do
  let before := (← get).events
  happens question
  match answer before with
  | .ok a => return a
  | .error failure => throw failure

/-- A step that may meet a fault. -/
def check {α : Type} : Except Fault α → Scan α
  | .ok a => return a
  | .error fault => throw (.fault fault)

end Scan

end GoLexicon
