import GoLexicon.Diagnostic
import GoLexicon.Syntax.Node
import GoLexicon.Text.Uppercase
/-!
# The exported names of a source file

A source file is a list of declarations. Each kind of declaration is known, and so is each kind of
spec inside it; a name is exported if it begins with an uppercase letter. `Node.exportedNames` gives
the exported names of a tree in the order of the source, each as often as it is declared.

A tree that is said to have an error is refused, at its first flawed node in the order of the source
(`Node.firstFlaw?`). Any other kind of declaration or spec is refused as well, and so is a qualified
name. The specs of a declaration come before its names: an unknown spec is reported even if a name
before it is not fit.

The specs of a declaration may stand below others, and a flawed node at any depth: both are looked
for on every level, and no limit is set to open calls.
-/

namespace GoLexicon.Syntax

/-- A name is exported if its first character is uppercase. -/
def isExported : Text → Bool
  | [] => false
  | c :: _ => c.isUppercase

/-- What a node at the top of a file is. -/
inductive TopLevel where
  /-- It declares nothing. -/
  | ignored
  /-- It has its name itself. -/
  | function
  /-- Its names are those of its specs, which are of the given kinds. -/
  | declaration (specs : List Text)
  deriving DecidableEq

/-- The kinds of nodes that declare nothing. -/
def ignoredKinds : List Text := ["comment", "package_clause"]

/-- The kinds of functions. -/
def functionKinds : List Text := ["function_declaration", "method_declaration"]

/-- The kinds of declarations, with the kinds of specs that may stand in each. -/
def declarationSpecs : List (Text × List Text) := [
  ("import_declaration", ["import_spec"]),
  ("const_declaration", ["const_spec"]),
  ("var_declaration", ["var_spec"]),
  ("type_declaration", ["type_alias", "type_spec"])]

/-- What a kind of node is at the top of a file, if it is known there. -/
def TopLevel.ofKind? (kind : Text) : Option TopLevel :=
  if kind ∈ ignoredKinds then some .ignored
  else if kind ∈ functionKinds then some .function
  else (declarationSpecs.lookup kind).map .declaration

/-- The ending of the kinds of nodes that only hold specs. -/
def specListEnding : Text := "_spec_list"

/-- Does a node of this kind only hold specs? -/
def isSpecList (kind : Text) : Bool := specListEnding.isSuffixOf kind

/-- A construct in a file that is not known. -/
def unknown (construct origin message : Text) : Failure :=
  .diagnostic ⟨.construct (some construct) (some origin), some message, none⟩

/-- A declaration of an unknown kind. -/
def unknownDeclaration (origin kind : Text) : Failure :=
  unknown kind origin ("Unhandled declaration " ++ kind.quoted ++ " in " ++ origin)

/-- A spec of a kind that may not stand in a node. -/
def unknownSpec (origin kind parent : Text) : Failure :=
  unknown kind origin
    ("Unhandled spec " ++ kind.quoted ++ " in " ++ parent.quoted ++ " in " ++ origin)

/-- A name that is qualified. -/
def qualifiedName (origin name : Text) : Failure :=
  unknown name origin ("Unhandled identifier " ++ name.quoted ++ " in " ++ origin)

namespace Node

mutual

/-- The specs that stand in a node, through lists of specs of any depth. -/
def specs (origin : Text) (allowed : List Text) : Node → Except Failure (List Node)
  | .mk marks children => specsAmong origin allowed marks.kind children

/-- The specs among some children of a node of kind `parent`. -/
def specsAmong (origin : Text) (allowed : List Text) (parent : Text) :
    List Node → Except Failure (List Node)
  | [] => .ok []
  | .mk marks children :: rest =>
    if !marks.isNamed || marks.kind = "comment" then specsAmong origin allowed parent rest
    else if isSpecList marks.kind then do
      let inner ← specs origin allowed (.mk marks children)
      let outer ← specsAmong origin allowed parent rest
      return inner ++ outer
    else if marks.kind ∈ allowed then do
      let outer ← specsAmong origin allowed parent rest
      return .mk marks children :: outer
    else .error (unknownSpec origin marks.kind parent)

end

/-- The nodes of the names that a node at the top of a file declares. -/
def declaredNames (origin : Text) (declaration : Node) : Except Failure (List Node) :=
  match TopLevel.ofKind? declaration.kind with
  | some .ignored => .ok []
  | some .function => .ok (declaration.childrenOf "name")
  | some (.declaration allowed) => do
    let specs ← declaration.specs origin allowed
    return specs.flatMap (·.childrenOf "name")
  | none => .error (unknownDeclaration origin declaration.kind)

/-- The name that a node covers. -/
def name (origin : Text) (n : Node) : Except Failure Text :=
  match Text.decode n.marks.octets with
  | .error m => .error (.fault (.undecodable m))
  | .ok t => if CodePoint.ofChar '.' ∈ t then .error (qualifiedName origin t) else .ok t

/-- The exported names that a node at the top of a file declares. -/
def exportedBy (origin : Text) (declaration : Node) : Except Failure (List Text) := do
  let nodes ← declaration.declaredNames origin
  let names ← nodes.mapM (name origin)
  return names.filter isExported

mutual

/-- The first flawed node of a tree in the order of the source, looked for only below nodes that are
said to have an error, or are flawed themselves. -/
def firstFlaw? : Node → Option Node
  | .mk marks children =>
    if marks.isFlawed then some (.mk marks children) else firstFlawAmong? children

/-- The first flawed node in some trees. -/
def firstFlawAmong? : List Node → Option Node
  | [] => none
  | .mk marks children :: rest =>
    if marks.hasError || marks.isFlawed then
      firstFlaw? (.mk marks children) <|> firstFlawAmong? rest
    else firstFlawAmong? rest

end

/-- The place of a flaw, counted from one, as the end of a message. -/
def placeSuffix : Option Node → Text
  | none => []
  | some flaw => ":" ++ Text.ofNat (flaw.marks.row + 1) ++ ":" ++ Text.ofNat (flaw.marks.column + 1)

/-- The refusal of a tree with an error. -/
def syntaxError (origin : Text) (root : Node) : Failure :=
  let flaw := root.firstFlaw?
  .diagnostic ⟨
    .parsing (some origin)
      (flaw.map fun n => n.marks.row + 1) (flaw.map fun n => n.marks.column + 1),
    some ("Syntax error in " ++ origin ++ placeSuffix flaw), none⟩

/-- The exported names of a file in the order of the source. -/
def exportedNames (origin : Text) (root : Node) : Except Failure (List Text) :=
  if root.marks.hasError then .error (root.syntaxError origin)
  else do
    let names ← root.namedChildren.mapM (exportedBy origin)
    return names.flatten

end Node

end GoLexicon.Syntax
