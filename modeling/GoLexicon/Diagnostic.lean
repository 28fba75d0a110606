import GoLexicon.Fault
/-!
# Diagnostics

A diagnostic says why a word list cannot be built: what it is about (`Subject`), in which words
(`Diagnostic.message`), and which failure lies behind it, if any (`Origin`). Every diagnostic has
words: where none are given, the standard ones of its subject.

A run fails with a `Failure`: a diagnostic, or a fault that nothing has put into words.
-/

namespace GoLexicon

/-- What went wrong with a file. -/
inductive FileTrouble where
  | access | path | reading | writing
  deriving DecidableEq

/-- What a diagnostic is about, with what is known of it. -/
inductive Subject where
  | general
  /-- Listing the packages, or resolving the one of an import path. -/
  | resolution (importPath : Option Text)
  /-- A source file that does not parse; line and column are counted from one. -/
  | parsing (filePath : Option Text) (line column : Option Int)
  /-- A construct in a source file that is not known. -/
  | construct (construct filePath : Option Text)
  /-- The settings file. -/
  | settings (path : Option Text)
  | file (trouble : FileTrouble) (filePath : Option Text)
  deriving DecidableEq

namespace Subject

/-- The names of the kinds that a diagnostic on this subject belongs to, the narrowest first. -/
def kinds : Subject → List Text
  | general => ["GodictError"]
  | resolution _ => ["PackageResolutionError", "GodictError"]
  | parsing _ _ _ => ["SourceParseError", "GodictError"]
  | construct _ _ => ["UnsupportedConstructError", "GodictError"]
  | settings _ => ["ConfigError", "GodictError"]
  | file .access _ => ["FileIOError", "GodictError"]
  | file .path _ => ["InvalidFilePathError", "FileIOError", "GodictError"]
  | file .reading _ => ["FileReadError", "FileIOError", "GodictError"]
  | file .writing _ => ["FileWriteError", "FileIOError", "GodictError"]

/-- The words for a subject of which nothing else is said. -/
def standardMessage : Subject → Text
  | general => "An error occurred while building the dictionary"
  | resolution _ => "Failed to resolve standard library packages"
  | parsing _ _ _ => "Failed to parse source file"
  | construct _ _ => "Unsupported syntax construct"
  | settings _ => "Invalid settings file"
  | file .access _ => "An error occurred during file I/O operation"
  | file .path _ => "Invalid file path provided"
  | file .reading _ => "Failed to read file"
  | file .writing _ => "Failed to write file"

end Subject

/-- The failure behind a diagnostic: the name of its kind, and its words. -/
structure Origin where
  name : Text
  details : Text
  deriving DecidableEq

/-- The origin that a fault is. -/
def Fault.origin (f : Fault) : Origin := ⟨f.name, f.message⟩

/-- A reason why a word list cannot be built. -/
structure Diagnostic where
  subject : Subject
  /-- The words that are given for it, if any. -/
  note : Option Text
  origin : Option Origin
  deriving DecidableEq

namespace Diagnostic

/-- The words of a diagnostic. No words, and empty ones, are replaced by the standard ones. -/
def message (d : Diagnostic) : Text :=
  match d.note with
  | some (c :: rest) => c :: rest
  | _ => d.subject.standardMessage

/-- The name of the kind of a diagnostic. -/
def name (d : Diagnostic) : Text := d.subject.kinds.headD []

/-- A diagnostic as the origin of another one. -/
def asOrigin (d : Diagnostic) : Origin := ⟨d.name, d.message⟩

/-- The name of the failure behind a diagnostic, or the word for an unknown one. -/
def cause (d : Diagnostic) : Text := (d.origin.map (·.name)).getD "Unknown"

/-- The words of the failure behind a diagnostic, or the words for none. -/
def details (d : Diagnostic) : Text := (d.origin.map (·.details)).getD "No details"

end Diagnostic

/-- Why something fails. -/
inductive Failure where
  | diagnostic (d : Diagnostic)
  | fault (f : Fault)
  deriving DecidableEq

namespace Failure

/-- The name of the kind of a failure. -/
def name : Failure → Text
  | diagnostic d => d.name
  | fault f => f.name

/-- The words for a failure. -/
def message : Failure → Text
  | diagnostic d => d.message
  | fault f => f.message

/-- A failure as the origin of a diagnostic. -/
def origin (f : Failure) : Origin := ⟨f.name, f.message⟩

end Failure

end GoLexicon
