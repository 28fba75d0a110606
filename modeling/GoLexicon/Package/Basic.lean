import GoLexicon.Diagnostic
import GoLexicon.Path
/-!
# Packages and catalogs

A package is ready to be scanned when its directory and the names of its files are known. A catalog
lists the import paths of a library and resolves each to its package.

Import path, name and file names come from outside and are kept as they came; they are texts unless
the source of the catalog says otherwise, and nothing is checked before it is used.
-/

namespace GoLexicon

/-- A package. -/
structure Package where
  importPath : Json
  directory : Path
  /-- The files that make up the package, relative to its directory. -/
  files : List Json
  name : Json

namespace Package

/-- A file name that is no text. -/
def notAFileName (v : Json) : Fault :=
  .wrongKind ("unsupported operand type(s) for /: 'PosixPath' and " ++ v.kindName.quoted)

/-- The path of a file in a directory. -/
def filePath (directory : Path) : Json → Except Fault Path
  | .text t => .ok (directory.join (Path.parse t))
  | v => .error (notAFileName v)

/-- The paths of the files of a package. -/
def filePaths (p : Package) : Except Fault (List Path) := p.files.mapM (filePath p.directory)

end Package

/-- A source of packages whose answers depend on nothing but the question. -/
structure Catalog where
  /-- The import paths of the library, in order. -/
  list : Except Failure (List Text)
  /-- The package of an import path. -/
  resolve : Text → Except Failure Package

/-- The part of an import path that marks what is not for use from outside. -/
def internalMarker : Text := "internal"

/-- Does an import path belong to an internal package? -/
def isInternal (importPath : Text) : Bool := internalMarker.occursIn importPath

/-- The diagnostic on an import path that cannot be resolved, or on the list of them all. -/
def unresolved (importPath : Option Text) (message : Text) (origin : Option Origin) : Failure :=
  .diagnostic ⟨.resolution importPath, some message, origin⟩

end GoLexicon
