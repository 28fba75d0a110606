import GoLexicon.Diagnostic
import GoLexicon.Path
/-!
# File systems

A file system is what stands at each location: a file with its content, a directory, or nothing. A
location is the names on the way from the root, with no `..` among them. A path leads to a location
(`FileSystem.locate`) if what it passes on the way are directories and no name is too long; it may
lead to a location where nothing stands.

A path that cannot be handed to the system, because it holds NUL or cannot be encoded, is no refusal
of the system but a fault of its own.

Entries have no links and no permissions. Each directory can be searched and each file read, so a
path is refused here for its length or for what stands on its way and for nothing else, and `..`
takes away the name in front of it. What is said here to be so exactly where something holds is said
of such file systems.
-/

namespace GoLexicon

/-- What can stand at a location. -/
inductive Entry where
  | file (content : Bytes)
  | directory
  deriving DecidableEq

/-- The names on the way from the root. -/
abbrev Location := List Text

/-- A file system, with the directory where relative paths begin. -/
structure FileSystem where
  entries : List (Location × Entry)
  here : Location

namespace FileSystem

/-- What stands at a location. The root is a directory. -/
def entry? (fs : FileSystem) (location : Location) : Option Entry :=
  if location = [] then some .directory else fs.entries.lookup location

/-- The file system with an entry put at a location, in the place of what stands there. -/
def put (fs : FileSystem) (location : Location) (entry : Entry) : FileSystem :=
  let others := fs.entries.filter fun (at', _) => at' ≠ location
  if others.length = fs.entries.length then { fs with entries := fs.entries ++ [(location, entry)] }
  else
    { fs with
      entries := fs.entries.map fun (at', old) => (at', if at' = location then entry else old) }

/-- The file system without what stands at a location. -/
def remove (fs : FileSystem) (location : Location) : FileSystem :=
  { fs with entries := fs.entries.filter fun (at', _) => at' ≠ location }

/-- The names of what stands in a directory. -/
def namesIn (fs : FileSystem) (directory : Location) : List Text :=
  fs.entries.filterMap fun (location, _) =>
    if location.dropLast = directory ∧ location ≠ [] then location.getLast? else none

/-! ## Where paths lead -/

/-- No name may have more octets than this. -/
def nameLimit : Nat := 255

/-- A path must have fewer octets than this. -/
def pathLimit : Nat := 4096

/-- Does a lone surrogate stand for an octet that is no text? -/
def standsForOctet (c : CodePoint) : Bool := 0xDC80 ≤ c.val && c.val ≤ 0xDCFF

/-- How many octets a text has in the names of files. -/
def octetCount (t : Text) : Nat :=
  t.foldl (fun n c => n + if standsForOctet c then 1 else c.octets.length) 0

/-- What keeps a text from being handed to the system. -/
def textFault? (t : Text) : Option Fault :=
  let fits (c : CodePoint) : Bool := !c.isSurrogate || standsForOctet c
  match t.dropWhile fits with
  | [] => if t.any (·.val = 0) then some (.badValue "embedded null byte") else none
  | bad => some (.unencodable ⟨bad.takeWhile (·.isSurrogate), t.length - bad.length⟩)

/-- Goes on from a location along some names, and tells what stands at the end. -/
def walk (fs : FileSystem) :
    Location → List Text → Except SystemError.Reason (Location × Option Entry)
  | location, [] => .ok (location, fs.entry? location)
  | location, name :: rest =>
    match fs.entry? location with
    | none => .error .missing
    | some (.file _) => .error .notDirectory
    | some .directory =>
      if name = Path.up then fs.walk location.dropLast rest
      else if nameLimit < octetCount name then .error .nameTooLong
      else fs.walk (location ++ [name]) rest

/-- The location where a path begins. -/
def start (fs : FileSystem) (p : Path) : Location :=
  match p.anchor with
  | .here => fs.here
  | _ => []

/-- The location that a path leads to, and what stands there. -/
def locate (fs : FileSystem) (p : Path) : Except Fault (Location × Option Entry) :=
  match textFault? p.toText with
  | some fault => .error fault
  | none =>
    if pathLimit ≤ octetCount p.toText then .error (.system ⟨.nameTooLong, p.toText, none⟩)
    else match fs.walk (fs.start p) p.names with
      | .ok found => .ok found
      | .error reason => .error (.system ⟨reason, p.toText, none⟩)

/-- What stands where a path leads. Paths that cannot lead anywhere lead to nothing, but a name that
is too long is a refusal. -/
def look (fs : FileSystem) (p : Path) : Except Fault (Option Entry) :=
  match fs.locate p with
  | .ok (_, entry) => .ok entry
  | .error (.system ⟨.nameTooLong, path, target⟩) => .error (.system ⟨.nameTooLong, path, target⟩)
  | .error _ => .ok none

/-- Does anything stand where a path leads? -/
def exists? (fs : FileSystem) (p : Path) : Except Fault Bool := return (← fs.look p).isSome

/-- Does a directory stand where a path leads? -/
def isDirectory? (fs : FileSystem) (p : Path) : Except Fault Bool :=
  return (← fs.look p) = some .directory

/-- The names in a directory, in order. -/
def list (fs : FileSystem) (p : Path) : Except Fault (List Text) :=
  match fs.locate p with
  | .error fault => .error fault
  | .ok (location, some .directory) => .ok ((fs.namesIn location).mergeSort Text.isAtMost)
  | .ok (_, some (.file _)) => .error (.system ⟨.notDirectory, p.toText, none⟩)
  | .ok (_, none) => .error (.system ⟨.missing, p.toText, none⟩)

/-- The path of the current directory. -/
def herePath (fs : FileSystem) : Path :=
  Path.parse ("/" ++ Text.joined "/" fs.here)

end FileSystem

end GoLexicon
