import GoLexicon.Text.Basic
/-!
# Syntax trees

A node has a kind, the octets of source that it covers, and marks: whether it is named, which field
of its parent it fills, whether it stands for an error or for something missing, and whether such a
node stands below it (`hasError`). The last mark is only what the tree says of itself; in the trees
of `Node.build` it holds.

Trees may be of any depth, and what goes down them is not stopped at any level: `Json.nestingLimit`
has no counterpart here.
-/

namespace GoLexicon.Syntax

/-- What is known of a node besides its children. -/
structure Marks where
  kind : Text
  octets : Bytes
  isNamed : Bool
  /-- The field of the parent that the node fills. -/
  field : Option Text
  isError : Bool
  isMissing : Bool
  /-- The node or one below it is said to be an error or missing. -/
  hasError : Bool
  /-- How many lines stand above the node. -/
  row : Nat
  /-- How many octets stand before it on its line. -/
  column : Nat

/-- Is it a node that stands for an error or for something missing? -/
def Marks.isFlawed (m : Marks) : Bool := m.isError || m.isMissing

/-- A syntax tree. -/
inductive Node where
  | mk (marks : Marks) (children : List Node)

namespace Node

/-- What is known of the root of a tree. -/
def marks : Node → Marks
  | mk m _ => m

/-- The children of the root of a tree. -/
def children : Node → List Node
  | mk _ children => children

/-- The kind of the root. -/
def kind (n : Node) : Text := n.marks.kind

/-- The children that are named. -/
def namedChildren (n : Node) : List Node := n.children.filter (·.marks.isNamed)

/-- The children that fill a field. -/
def childrenOf (n : Node) (field : Text) : List Node :=
  n.children.filter (·.marks.field = some field)

/-- A tree whose root has the given marks, and is said to have an error if it is flawed itself or
one of its children is said to have one. -/
def build (marks : Marks) (children : List Node) : Node :=
  .mk { marks with hasError := marks.isFlawed || children.any (·.marks.hasError) } children

/-- A named node without flaws. -/
def plain (kind : Text) (children : List Node) : Node :=
  build ⟨kind, [], true, none, false, false, false, 0, 0⟩ children

/-- A named node that fills a field and has no children. -/
def leaf (kind field : Text) (octets : Bytes) : Node :=
  build ⟨kind, octets, true, some field, false, false, false, 0, 0⟩ []

end Node

end GoLexicon.Syntax
