import GoLexicon.Go.Lexer
import GoLexicon.Go.Statement
import GoLexicon.Syntax.Harvest
/-!
# Go source files

A source file is a list of package clauses, imports, functions, methods and statements, each ended,
save that a clause, import, function or method at the very end need not be. The order is free.

`parse` gives the tree of a file, whether it is well formed or not: a file that is not gets a tree
with one flawed node, at the first token that cannot stand where it does. `exportedNames` harvests
it.
-/

namespace GoLexicon.Go

open Syntax (Node)

namespace Rules

/-- The rules that allow no construct inside another one. -/
def flat (limit : Nat) : Rules where
  limit := limit
  expression _ := Parser.refuse
  type _ := Parser.refuse
  elements := Parser.refuse
  block := Parser.refuse
  statement := Parser.refuse

/-- The rules that allow one construct more inside another one. -/
def deeper (r : Rules) : Rules where
  limit := r.limit
  expression := r.expressionBody
  type := r.typeBody
  elements := r.elementsBody
  block := r.blockBody
  statement := r.statementBody

/-- The rules that allow a number of constructs inside each other. -/
def nested (limit : Nat) : Nat → Rules
  | 0 => flat limit
  | depth + 1 => deeper (nested limit depth)

/-- The rules for some tokens. A construct inside another one has a token less than it, and a rule
is used for at most three rules of the same tokens, so the limits are never reached. -/
def ofTokens (tokens : List Token) : Rules :=
  nested (tokens.length + 1) (3 * (tokens.length + 1))

open GoLexicon.Go.Parser

/-- What may stand at the top of a file. -/
def topLevel (r : Rules) : Parser Node := do
  match (← peek).lexeme with
  | .keyword .package => packageClause
  | .keyword .import => r.importDeclaration
  | .keyword .const | .keyword .var | .keyword .type => r.declaration
  | .keyword .func =>
    match ← get with
    | _ :: ⟨.name _, _, _⟩ :: _ => r.function
    | tokens =>
      if (← attempt r.methodHead).isSome then
        set tokens
        r.method
      else return Node.plain (← r.statement) []
  | _ => return Node.plain (← r.statement) []

/-- All that stands at the top of a file. -/
def file (r : Rules) : Parser (List Node) := do
  let nodes ← repeated (fun nodes => do
    if ← at? .ending then return none
    let node ← r.topLevel
    unless ← terminator? do refuse
    return some (node :: nodes)) r.limit []
  unless ← at? .ending do refuse
  return nodes.reverse

end Rules

/-- The node of a token that cannot stand where it does. -/
def flawedNode (place : Place) : Node :=
  Node.build ⟨"ERROR", [], true, none, true, false, true, place.row, place.column⟩ []

/-- The tree of a source file. -/
def parse (source : Bytes) : Node :=
  let tokens := tokens source
  match (Rules.ofTokens tokens).file tokens with
  | .ok (nodes, _) => Node.plain "source_file" nodes
  | .error place => Node.plain "source_file" [flawedNode place]

/-- The exported names of a source file; `origin` stands for the file in messages. -/
def exportedNames (origin : Text) (source : Bytes) : Except Failure (List Text) :=
  (parse source).exportedNames origin

end GoLexicon.Go
