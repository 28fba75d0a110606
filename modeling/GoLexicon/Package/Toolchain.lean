import GoLexicon.FileSystem.Basic
import GoLexicon.Package.Basic
import GoLexicon.Text.Lines
/-!
# The catalog of an installed toolchain

The toolchain is asked by running its program: `list std` prints the import paths of the library, a
line for each, and `list -json` with an import path prints what is known of its package as a JSON
object.

`Program` says how programs answer. `Toolchain` puts the questions and reads the answers; whatever
keeps it from reading one is a diagnostic on the question, except that output which is no text, a
word that cannot be handed to a program, and JSON beyond the limits of its reader stay faults.
-/

namespace GoLexicon

/-- What comes of running a program. -/
inductive ProgramRun where
  /-- It cannot be run. -/
  | refused (reason : SystemError.Reason)
  /-- It ended, with or without success, and left output. -/
  | ended (output errors : Bytes) (failure : Option CommandEnding)

/-- How the programs of a machine answer, by their name and the words behind it. -/
abbrev Program := Text → List Text → ProgramRun

/-- The client of a toolchain: the program to run, and the machine to run it on. -/
structure Toolchain where
  binary : Text
  program : Program

namespace Toolchain

/-- The diagnostic on a program that cannot be run. -/
def cannotRun (binary : Text) (importPath : Option Text) (reason : SystemError.Reason) : Failure :=
  let origin := (Fault.system ⟨reason, binary, none⟩).origin
  match reason with
  | .missing => unresolved importPath ("Go toolchain not found: " ++ binary.quoted) (some origin)
  | _ => unresolved importPath ("Could not run " ++ binary.quoted) (some origin)

/-- The diagnostic on a program that ended without success. -/
def commandFailed (command : List Text) (importPath : Option Text) (errors : Text)
    (ending : CommandEnding) : Failure :=
  let said := errors.trim
  let reason := if said.isEmpty then "exit status " ++ Text.ofInt ending.code else said
  unresolved importPath ("'" ++ Text.joined " " command ++ "' failed: " ++ reason)
    (some (Fault.command ⟨command, ending⟩).origin)

/-- Output as text with plain line ends. -/
def printed (output : Bytes) : Except Failure Text :=
  match Text.decode output with
  | .ok t => .ok t.unifyNewlines
  | .error m => .error (.fault (.undecodable m))

/-- The output of the program when it is run with some words. -/
def run (t : Toolchain) (words : List Text) (importPath : Option Text) : Except Failure Text := do
  match (t.binary :: words).findSome? FileSystem.textFault? with
  | some fault => .error (.fault fault)
  | none =>
    match t.program t.binary words with
    | .refused reason => .error (cannotRun t.binary importPath reason)
    | .ended output errors failure => do
      let output ← printed output
      let errors ← printed errors
      match failure with
      | none => return output
      | some ending => .error (commandFailed (t.binary :: words) importPath errors ending)

/-- The lines of a listing that are not blank, without the blanks around them. -/
def listed (output : Text) : List Text := (output.lines.map Text.trim).filter (· ≠ [])

/-- The import paths of the library. -/
def listStandard (t : Toolchain) : Except Failure (List Text) :=
  return listed (← t.run ["list", "std"] none)

/-- What is known of the package of an import path. -/
def packageInfo (t : Toolchain) (importPath : Text) : Except Failure (List (Text × Json)) := do
  let output ← t.run ["list", "-json", importPath] (some importPath)
  match Json.read Json.nestingLimit output with
  | .ok (.object members) => return members
  | .ok _ =>
    .error <| unresolved (some importPath)
      ("Unexpected package metadata for " ++ importPath.quoted) none
  | .error (.refused r) =>
    .error (unresolved (some importPath)
      ("Could not decode package metadata for " ++ importPath.quoted)
      (some (Fault.json (.refused r)).origin))
  | .error failure => .error (.fault (.json failure))

end Toolchain

namespace Package

/-- A value if it says anything. -/
def filled? (v : Option Json) : Option Json := v.filter (·.isFilled)

/-- The directory that a value names. -/
def directoryOf : Json → Except Failure Path
  | .text t => .ok (Path.parse t)
  | v =>
    .error (.fault (.wrongKind
      ("expected str, bytes or os.PathLike object, not " ++ v.kindName)))

/-- The file names that a value holds: the items of a list, the characters of a text, the names of
the members of an object. -/
def fileNamesOf : Json → Except Failure (List Json)
  | .list items => .ok items
  | .text t => .ok (t.map fun c => .text [c])
  | .object members => .ok (members.map fun (name, _) => .text name)
  | v => .error (.fault (.wrongKind (v.kindName.quoted ++ " object is not iterable")))

/-- The package that is described by what is known of an import path. Directory and name must be
given; the import path is the one that was asked for unless another one is given. -/
def ofInfo (importPath : Text) (info : List (Text × Json)) : Except Failure Package := do
  match filled? (Json.member? info "Dir"), filled? (Json.member? info "Name") with
  | some directory, some name =>
    let directory ← directoryOf directory
    let files ← match filled? (Json.member? info "GoFiles") with
      | some files => fileNamesOf files
      | none => pure []
    return {
      importPath := (filled? (Json.member? info "ImportPath")).getD (.text importPath)
      directory := directory
      files := files
      name := name }
  | _, _ =>
    .error <| unresolved (some importPath)
      ("Incomplete package metadata for " ++ importPath.quoted) none

end Package

/-- A client that can be asked for the import paths of a library and for what is known of one. -/
structure PackageClient where
  listStandard : Except Failure (List Text)
  packageInfo : Text → Except Failure (List (Text × Json))

/-- A toolchain as a client. -/
def Toolchain.toClient (t : Toolchain) : PackageClient := ⟨t.listStandard, t.packageInfo⟩

/-- The catalog of what a client knows. -/
def PackageClient.toCatalog (c : PackageClient) : Catalog :=
  ⟨c.listStandard, fun importPath => do Package.ofInfo importPath (← c.packageInfo importPath)⟩

end GoLexicon
