import GoLexicon.Package.Basic
/-!
# Catalogs in memory

A fixed list of packages under their import paths. A path that is given again keeps its place and
gets the later package.
-/

namespace GoLexicon

/-- Packages under import paths. -/
structure StaticCatalog where
  packages : List (Text × Package)

namespace StaticCatalog

/-- The packages with one more: at the place of its path, or last. -/
def insert (path : Text) (package : Package) : List (Text × Package) → List (Text × Package)
  | [] => [(path, package)]
  | (other, old) :: rest =>
    if other = path then (path, package) :: rest else (other, old) :: insert path package rest

/-- The catalog of some packages under given paths. -/
def ofPairs (pairs : List (Text × Package)) : StaticCatalog :=
  ⟨pairs.foldl (fun done (path, package) => insert path package done) []⟩

/-- The catalog of some packages under their own import paths. -/
def ofPackages (packages : List Package) : StaticCatalog :=
  ofPairs (packages.map fun p => (p.importPath.plain, p))

/-- The import paths, in order. -/
def paths (c : StaticCatalog) : List Text := c.packages.map (·.1)

/-- The package of an import path. -/
def resolve (c : StaticCatalog) (path : Text) : Except Failure Package :=
  match c.packages.lookup path with
  | some package => .ok package
  | none =>
    .error (unresolved (some path) ("Unknown package " ++ path.quoted)
      (some (Fault.missingKey path.quoted).origin))

/-- What the catalog answers. -/
def toCatalog (c : StaticCatalog) : Catalog := ⟨.ok c.paths, c.resolve⟩

end StaticCatalog

end GoLexicon
