import GoLexicon.FileSystem.Basic
/-!
# Replacing a file in one step

A text is written to a temporary file beside its destination, and the temporary file is then renamed
over it. So the destination holds its old content up to the moment when it holds the new one
(`Replacement.states` are the file systems between the operations). If the system refuses an
operation, the temporary file is removed.

A destination can be checked beforehand (`checkDestination`): it must not be a directory, and must
have a directory above it that can be written to.
-/

namespace GoLexicon

/-- The diagnostic on a destination that cannot be written. -/
def invalidDestination (p : Path) (reason : Text) : Failure :=
  .diagnostic ⟨.file .path (some p.toText), some reason, none⟩

/-- Checks that a file can be put where a path leads; `writable` says whether the directory above
lets files be created. -/
def FileSystem.checkDestination (fs : FileSystem) (writable : Bool) (p : Path) :
    Except Failure Unit := do
  let isDirectory (q : Path) : Except Failure Bool :=
    match fs.isDirectory? q with
    | .ok answer => .ok answer
    | .error fault => .error (.fault fault)
  if ← isDirectory p then
    throw (invalidDestination p ("Output path is a directory: " ++ p.toText))
  unless ← isDirectory p.parent do
    throw (invalidDestination p ("Parent directory does not exist: " ++ p.parent.toText))
  unless writable do
    throw (invalidDestination p ("Parent directory is not writable: " ++ p.parent.toText))

/-- The operations of a replacement. -/
inductive ReplacementStep where
  | create | fill | rename
  deriving DecidableEq

/-- How a replacement went: the file systems after each operation, last first and the initial one
last, and whether it failed. -/
structure Replacement where
  states : List FileSystem
  outcome : Except Failure Unit

namespace Replacement

/-- The file system when all is done. -/
def final (initial : FileSystem) (r : Replacement) : FileSystem := r.states.headD initial

/-- Refusals that come from outside, by the operation that they befall. -/
abbrev Disturbance := ReplacementStep → Option SystemError.Reason

/-- The name of a temporary file for a destination; `mark` tells it from others. -/
def temporaryName (p : Path) (mark : Text) : Text := "." ++ p.lastName ++ "." ++ mark ++ ".tmp"

/-- The path of a temporary file for a destination. -/
def temporaryPath (fs : FileSystem) (p : Path) (mark : Text) : Path :=
  (Path.absolute fs.herePath p.parent).join (Path.parse (temporaryName p mark))

/-- The characters of marks. -/
def markCharacters : Text := "abcdefghijklmnopqrstuvwxyz0123456789_"

/-- A mark of eight characters, one for each number below `37 ^ 8`. -/
def markOf (n : Nat) : Text :=
  (List.range 8).map fun i => markCharacters.getD (n / Nat.pow 37 i % 37) 'a'

/-- Where a temporary file is created: where the first of some marks leads to nothing. -/
def freshLocation (fs : FileSystem) (p : Path) : List Text → Except Fault (Path × Location)
  | [] => .error (.system ⟨.denied, p.toText, none⟩)
  | mark :: marks =>
    let path := temporaryPath fs p mark
    match fs.locate path with
    | .error fault => .error fault
    | .ok (location, none) => .ok (path, location)
    | .ok (_, some _) => freshLocation fs p marks

/-- What keeps a file from being renamed to where a path leads; otherwise, the location. -/
def renameTarget (fs : FileSystem) (temporary p : Path) : Except SystemError Location :=
  if p.names = [] ∨ p.lastName = Path.up then .error ⟨.busy, temporary.toText, some p.toText⟩
  else match fs.locate p with
    | .ok (_, some .directory) => .error ⟨.isDirectory, temporary.toText, some p.toText⟩
    | .ok (location, _) => .ok location
    | .error (.system e) => .error ⟨e.reason, temporary.toText, some p.toText⟩
    | .error _ => .error ⟨.missing, temporary.toText, some p.toText⟩

/-- The diagnostic on a text that cannot be written. -/
def unwritable (p : Path) (e : SystemError) : Failure :=
  .diagnostic ⟨.file .writing (some p.toText),
    some ("Failed to write dictionary to " ++ p.toText), some (Fault.system e).origin⟩

/-- The rest of a replacement when the temporary file holds the text. That the text of the
destination cannot be handed to the system comes out only now where it has a name that `..` takes
away again. It is no refusal of the system, so nothing removes the temporary file. -/
def finish (disturbance : Disturbance) (initial filled : FileSystem) (temporary : Path)
    (location : Location) (p : Path) (content : Bytes) (before : List FileSystem) : Replacement :=
  let undo (e : SystemError) : Replacement :=
    ⟨filled.remove location :: filled :: before, .error (unwritable p e)⟩
  match FileSystem.textFault? p.toText with
  | some fault => ⟨filled :: before, .error (.fault fault)⟩
  | none =>
    match disturbance .rename with
    | some reason => undo ⟨reason, temporary.toText, some p.toText⟩
    | none =>
      match renameTarget initial temporary p with
      | .error e => undo e
      | .ok target =>
        ⟨(filled.remove location).put target (.file content) :: filled :: before, .ok ()⟩

/-- The rest of a replacement when the temporary file has been created at a location. -/
def fill (disturbance : Disturbance) (initial created : FileSystem) (temporary : Path)
    (location : Location) (p : Path) (t : Text) (before : List FileSystem) : Replacement :=
  match t.encode with
  | .error u => ⟨created :: before, .error (.fault (.unencodable u))⟩
  | .ok content =>
    match disturbance .fill with
    | some reason =>
      ⟨created.remove location :: created :: before,
        .error (unwritable p ⟨reason, temporary.toText, none⟩)⟩
    | none =>
      finish disturbance initial (created.put location (.file content)) temporary location p content
        (created :: before)

/-- Puts a text into the file that a path leads to. -/
def run (disturbance : Disturbance) (fs : FileSystem) (p : Path) (t : Text) : Replacement :=
  let marks := (List.range (fs.entries.length + 1)).map markOf
  match freshLocation fs p marks with
  | .error (.system e) => ⟨[fs], .error (unwritable p e)⟩
  | .error fault => ⟨[fs], .error (.fault fault)⟩
  | .ok (temporary, location) =>
    match disturbance .create with
    | some reason => ⟨[fs], .error (unwritable p ⟨reason, temporary.toText, none⟩)⟩
    | none => fill disturbance fs (fs.put location (.file [])) temporary location p t [fs]

/-- A replacement that nothing disturbs. -/
def undisturbed : Disturbance := fun _ => none

end Replacement

end GoLexicon
