import GoLexicon.FileSystem.Reading
import GoLexicon.Word.Mode
/-!
# Settings

Settings stand in a file that holds a JSON object. Each of the three members that count may be left
out, and where nothing is at the path of the file, all settings are the standard ones.

What keeps a file from being used is a diagnostic on it: it cannot be read, it is no JSON or no
object, or a member has a wrong value (`Settings.ofMembers`). Limits of the system and of the JSON
reader stay faults.
-/

namespace GoLexicon

/-- What can be set for a run. -/
structure Settings where
  mode : Mode
  /-- The program of the toolchain. -/
  binary : Text
  /-- Further tokens that every list begins with. -/
  extraWords : List Text
  deriving DecidableEq

namespace Settings

/-- The settings where nothing is set. -/
def standard : Settings := ⟨.strict, "go", []⟩

/-- The diagnostic on the settings file at a path. -/
def refused (path : Path) (message : Text) (origin : Option Origin) : Failure :=
  .diagnostic ⟨.settings (some path.toText), some message, origin⟩

/-- The diagnostic on a settings file that cannot be read, or is no JSON. -/
def notLoaded (path : Path) (origin : Origin) : Failure :=
  refused path ("Could not load settings from " ++ path.toText) (some origin)

/-- The diagnostic on a value that is no mode. -/
def unknownMode (path : Path) (v : Json) : Failure :=
  refused path ("Unknown normalization mode " ++ v.shown ++ " in " ++ path.toText)
    (some (Fault.badValue (v.shown ++ " is not a valid NormalizeMode")).origin)

/-- The mode that a member names; the standard one if there is no member. -/
def modeOf (path : Path) : Option Json → Except Failure Mode
  | none => .ok standard.mode
  | some (.text t) =>
    match Mode.ofName? t with
    | some mode => .ok mode
    | none => .error (unknownMode path (.text t))
  | some v => .error (unknownMode path v)

/-- The program that a member names; the standard one if the member says nothing. -/
def binaryOf (path : Path) (member : Option Json) : Except Failure Text :=
  match member.filter (·.isFilled) with
  | none => .ok standard.binary
  | some (.text t) => .ok t
  | some _ => .error (refused path ("'go_binary' must be a string in " ++ path.toText) none)

/-- The text that a value is. -/
def textOf? : Json → Option Text
  | .text t => some t
  | _ => none

/-- The words that a member lists; none if there is no member. -/
def extraWordsOf (path : Path) (member : Option Json) : Except Failure (List Text) :=
  let refusal := refused path ("'extra_words' must be a list of strings in " ++ path.toText) none
  match member with
  | none => .ok standard.extraWords
  | some (.list items) =>
    match items.mapM textOf? with
    | some words => .ok words
    | none => .error refusal
  | some _ => .error refusal

/-- The settings that the members of an object make. -/
def ofMembers (path : Path) (members : List (Text × Json)) : Except Failure Settings := do
  let mode ← modeOf path (Json.member? members "mode")
  let binary ← binaryOf path (Json.member? members "go_binary")
  let extraWords ← extraWordsOf path (Json.member? members "extra_words")
  return ⟨mode, binary, extraWords⟩

/-- The settings that a document makes. -/
def ofDocument (path : Path) (document : Text) : Except Failure Settings :=
  match Json.read Json.nestingLimit document with
  | .ok (.object members) => ofMembers path members
  | .ok _ =>
    .error (refused path ("Settings file must contain a JSON object: " ++ path.toText) none)
  | .error (.refused r) => .error (notLoaded path (Fault.json (.refused r)).origin)
  | .error failure => .error (.fault (.json failure))

/-- Why settings are not loaded where their file is not read. -/
def ofReadFailure (path : Path) : Failure → Failure
  | .diagnostic d =>
    match d.subject with
    | .file .reading _ => notLoaded path d.asOrigin
    | _ => .diagnostic d
  | .fault f => .fault f

/-- The settings in the file at a path; whether there is such a file is up to the file system, what
it holds is up to the reader. -/
def load (fs : FileSystem) (read : FileReader) (path : Path) : Except Failure Settings :=
  match fs.exists? path with
  | .error fault => .error (.fault fault)
  | .ok false => .ok standard
  | .ok true =>
    match read.text path with
    | .error failure => .error (ofReadFailure path failure)
    | .ok document => ofDocument path document

end Settings

end GoLexicon
