import GoLexicon.Package.Toolchain
/-!
# Transcripts of a toolchain

A transcript is what a toolchain prints when it is asked to describe all packages of its library:
one JSON object after the other, each of which ends with a line that holds nothing but the closing
brace. A transcript can stand for the toolchain, as it holds the answer to each question that is put
to one.
-/

namespace GoLexicon

/-- What a toolchain has printed on its packages: import paths, and a document for each. -/
structure Transcript where
  entries : List (Text × Text)

namespace Transcript

/-- The line that ends a document. -/
def lastLine : Text := "\x7d"

/-- The documents in some lines; `open'` are the lines of the first document that have been read,
last first. -/
def documentsFrom (open' : List Text) : List Text → List Text
  | [] => []
  | line :: rest =>
    if line = lastLine then Text.joined "\n" (line :: open').reverse :: documentsFrom [] rest
    else documentsFrom (line :: open') rest

/-- The documents in a text. -/
def documents (t : Text) : List Text := documentsFrom [] t.unifyNewlines.lines

/-- What is known of a package from a document. -/
def membersOf (document : Text) : List (Text × Json) :=
  match Json.read Json.nestingLimit document with
  | .ok (.object members) => members
  | _ => []

/-- The transcript that a text holds. A document without an import path does not count. -/
def parse (t : Text) : Transcript where
  entries := (documents t).filterMap fun document =>
    match Json.member? (membersOf document) "ImportPath" with
    | some (.text importPath) => some (importPath, document)
    | _ => none

/-- What the toolchain says of a package that it does not know. -/
def unknown (importPath : Text) : Bytes :=
  Text.octets ("package " ++ importPath ++ Text.ofString " is not in std\n")

/-- The program of a toolchain, by its transcript. -/
def program (t : Transcript) : Program := fun _ words =>
  if words = [Text.ofString "list", "std"] then
    .ended (Text.octets (t.entries.flatMap fun (importPath, _) => importPath ++ "\n")) [] none
  else
    let importPath := words.getLastD []
    if words = [Text.ofString "list", "-json", importPath] then
      match t.entries.lookup importPath with
      | some document => .ended (Text.octets document) [] none
      | none => .ended [] (unknown importPath) (some (.status 1))
    else .ended [] [] (some (.status 2))

/-- The files of all packages of a transcript. -/
def files (t : Transcript) : List Path :=
  t.entries.flatMap fun (importPath, document) =>
    match Package.ofInfo importPath (membersOf document) with
    | .ok package => (package.filePaths.toOption).getD []
    | .error _ => []

end Transcript

end GoLexicon
