import GoLexicon.Scan.Enumeration
import GoLexicon.Vocabulary
/-!
# Scanning a library

A scan begins with the words of the vocabulary, goes through the packages of a catalog one by one,
and adds for each the words of its name and of the names that its files declare. The first failure
ends it, and what has been collected is given up.

`Scan.run` gives the set, or the failure, with the trace of the scan.
-/

namespace GoLexicon.Scan

/-- The set that a scan begins with. -/
def seed (mode : Mode) (furtherTokens : List Text) (s : WordSet) : WordSet :=
  s.addAll (mode.wordsOfAll (Vocabulary.tokens furtherTokens))

/-- Adds the words of the name of a package. -/
def addName (mode : Mode) (name : Json) : Scan Unit := do
  match mode, name with
  | mode, .text t => modify fun r => { r with words := r.words.addAll (mode.words t) }
  | .verbatim, v =>
    let words ← check ((← get).words.addValue v)
    modify fun r => { r with words := words }
  | .strict, v =>
    if v.isFilled then
      throw <| .fault <|
        .wrongKind ("expected string or bytes-like object, got " ++ v.kindName.quoted)

/-- Adds a word, with a note if it is new. -/
def addWord (w : Text) : Scan Unit := do
  if w ∉ (← get).words then happens (.adding w)
  modify fun r => { r with words := r.words.add w }

/-- Adds the words of a name that a file declares. -/
def addIdentifier (mode : Mode) (name : Text) : Scan Unit := (mode.words name).forM addWord

/-- Scans a file. -/
def file (guide : Guide) (mode : Mode) (path : Path) : Scan Unit := do
  let names ← ask (.extracted path) fun before => guide.extract before path
  names.forM (addIdentifier mode)

/-- Scans a package. -/
def package (guide : Guide) (mode : Mode) (p : Package) : Scan Unit := do
  happens (.processing p.importPath)
  addName mode p.name
  let paths ← check p.filePaths
  paths.forM (file guide mode)

/-- Scans the package of a stop, and tells the display. -/
def stop (guide : Guide) (mode : Mode) (s : Stop) : Scan Unit := do
  let p ← visit guide s
  happens (.packageStarted p.importPath)
  package guide mode p
  modify fun r => { r with finished := r.finished + 1 }
  happens (.packageFinished p.importPath)

/-- Scans all packages. -/
def packages (guide : Guide) (mode : Mode) : Scan Unit := do
  let way ← list guide
  way.stops.forM (stop guide mode)
  skip way.rest

/-- All that happens inside the display. -/
def inside (guide : Guide) (mode : Mode) : Scan Unit := do
  happens .scanStarted
  packages guide mode
  let r ← get
  happens (.scanFinished r.finished r.words.size)

/-- What a scan comes to. -/
structure Outcome where
  result : Except Failure WordSet
  /-- What happened, in order. -/
  trace : List Event

/-- The failure of a result. -/
def failure? {α : Type} : Except Failure α → Option Failure
  | .ok _ => none
  | .error failure => some failure

/-- Scans the packages that a guide leads to. -/
def run (guide : Guide) (mode : Mode) (furtherTokens : List Text) : Outcome :=
  let initial : Record := ⟨seed mode furtherTokens ∅, 0, [.entered]⟩
  let (result, r) := (inside guide mode).perform initial
  ⟨result.map fun _ => r.words, (Event.left (failure? result) :: r.events).reverse⟩

end GoLexicon.Scan
