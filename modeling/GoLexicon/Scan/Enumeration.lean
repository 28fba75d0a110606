import GoLexicon.Scan.Event
/-!
# Going through a catalog

The packages of a catalog are gone through one at a time, in the order of its list, and internal
ones are passed over without a question. Nothing is asked before it is needed: the list at the first
step, each package at its own. A step that fails is the last one.

The way is fixed by the list alone (`Itinerary`): which paths are stops, and which internal paths
are passed over in front of each.
-/

namespace GoLexicon

/-- An import path to be resolved, and the internal paths that are passed over in front of it. -/
structure Stop where
  skipped : List Text
  importPath : Text

/-- The way through a list of import paths. -/
structure Itinerary where
  stops : List Stop
  /-- The internal paths behind the last stop. -/
  rest : List Text

namespace Itinerary

/-- The way with one more path in front. -/
def add (importPath : Text) (way : Itinerary) : Itinerary :=
  if isInternal importPath then
    match way.stops with
    | [] => ⟨[], importPath :: way.rest⟩
    | stop :: stops => ⟨⟨importPath :: stop.skipped, stop.importPath⟩ :: stops, way.rest⟩
  else ⟨⟨[], importPath⟩ :: way.stops, way.rest⟩

/-- The way through a list of import paths. -/
def ofList (importPaths : List Text) : Itinerary := importPaths.foldr add ⟨[], []⟩

end Itinerary

namespace Scan

/-- Passes over some internal paths. -/
def skip (importPaths : List Text) : Scan Unit := importPaths.forM fun p => happens (.skipped p)

/-- Asks for the list of import paths. -/
def list (guide : Guide) : Scan Itinerary :=
  return Itinerary.ofList (← ask .listed guide.list)

/-- Goes to a stop and asks for its package. -/
def visit (guide : Guide) (stop : Stop) : Scan Package := do
  skip stop.skipped
  ask (.resolved stop.importPath) fun before => guide.resolve before stop.importPath

end Scan

/-- How far a catalog has been gone through. -/
inductive Enumeration where
  | fresh
  | underway (way : Itinerary)
  | done

namespace Enumeration

/-- The rest of the way, where the list is known. -/
def advance (guide : Guide) (way : Itinerary) (r : Record) :
    (Except Failure (Option Package) × Enumeration) × Record :=
  match way.stops with
  | [] =>
    let (_, r) := (Scan.skip way.rest).perform r
    ((.ok none, .done), r)
  | stop :: stops =>
    match (Scan.visit guide stop).perform r with
    | (.ok package, r) => ((.ok (some package), .underway ⟨stops, way.rest⟩), r)
    | (.error failure, r) => ((.error failure, .done), r)

/-- The next step: a package, or nothing where the way has come to its end. -/
def next (guide : Guide) (e : Enumeration) (r : Record) :
    (Except Failure (Option Package) × Enumeration) × Record :=
  match e with
  | fresh =>
    match (Scan.list guide).perform r with
    | (.ok way, r) => advance guide way r
    | (.error failure, r) => ((.error failure, .done), r)
  | underway way => advance guide way r
  | done => ((.ok none, .done), r)

end Enumeration

end GoLexicon
