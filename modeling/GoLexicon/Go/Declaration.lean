import GoLexicon.Go.Expression
import GoLexicon.Syntax.Node
import GoLexicon.Text.Utf8
/-!
# Declarations of Go

Declarations are parsed into nodes that keep the specs and the names they declare; types, values and
bodies are checked and left out.
-/

namespace GoLexicon.Go

open Syntax (Node)

/-- The node of a name that is declared. -/
def nameNode (kind : Text) (t : Text) : Node := Node.leaf kind "name" (Text.octets t)

namespace Rules

open GoLexicon.Go.Parser

/-- The nodes of names with commas between them. -/
def names (r : Rules) : Parser (List Node) := do
  let first ← name
  let rest ← repeated (fun names => do
    if ← takeSign? .comma then return some (nameNode "identifier" (← name) :: names)
    else return none) r.limit []
  return nameNode "identifier" first :: rest.reverse

/-- One spec, or several in parentheses. -/
def oneOrSeveral (one : Parser Node) (several : Parser (List Node)) : Parser (List Node) := do
  if ← takeSign? .openParen then several else return [← one]

/-- Specs up to the closing parenthesis, each ended but the last, which may be. -/
def terminatedSpecs (r : Rules) (spec : Parser Node) : Parser (List Node) := do
  if ← takeSign? .closeParen then return []
  else
    let first ← spec
    let nodes ← repeated (fun nodes => do
      if ← terminator? then
        if ← atSign .closeParen then return none
        return some ((← spec) :: nodes)
      else return none) r.limit [first]
    expect .closeParen
    return nodes.reverse

/-- Specs up to the closing parenthesis, each ended. -/
def eachTerminatedSpecs (r : Rules) (spec : Parser Node) : Parser (List Node) := do
  let nodes ← repeated (fun nodes => do
    if ← atSign .closeParen then return none
    let node ← spec
    unless ← terminator? do refuse
    return some (node :: nodes)) r.limit []
  expect .closeParen
  return nodes.reverse

/-- The name, the blank or the dot in front of an imported path. -/
def importName? : Parser (List Node) := do
  match (← peek).lexeme with
  | .name t =>
    skip
    return [nameNode (if t = "_" then "blank_identifier" else "package_identifier") t]
  | .sign .dot =>
    skip
    return [nameNode "dot" "."]
  | _ => return []

/-- An imported path, perhaps with a name in front. -/
def importSpec : Parser Node := do
  let names ← importName?
  unless ← take? .string do refuse
  return Node.plain "import_spec" names

/-- Constants. Where a type is given, values are, too. -/
def constSpec (r : Rules) : Parser Node := do
  let names ← r.names
  let t ← peek
  unless t.startsLine do
    if ← takeSign? .assign then r.expressionsIn { lineEnds := true }
    else if t.lexeme.beginsType || t.lexeme = .sign .openParen then
      r.type true
      expect .assign
      r.expressionsIn { lineEnds := true }
  return Node.plain "const_spec" names

/-- Variables, with a type or values or both. -/
def varSpec (r : Rules) : Parser Node := do
  let names ← r.names
  if ← takeSign? .assign then r.expressionsIn { lineEnds := true }
  else
    r.type true
    if ← continuesWith true .assign then
      skip
      r.expressionsIn { lineEnds := true }
  return Node.plain "var_spec" names

/-- A type or an alias. Brackets behind the name hold type parameters if they can; otherwise they
are the length of an array type. -/
def typeSpec (r : Rules) : Parser Node := do
  let t ← name
  let node (kind : Text) : Node := Node.plain kind [nameNode "type_identifier" t]
  let _ ← attempt do
    match ← get with
    | _ :: ⟨.name p, _, _⟩ :: _ => require (p ∉ valueNames ++ typeFunctionNames)
    | _ => pure ()
    r.typeParameters
  if ← takeSign? .assign then
    r.type true
    return node "type_alias"
  else
    r.type true
    return node "type_spec"

/-- A declaration of constants, variables or types. -/
def declaration (r : Rules) : Parser Node := do
  match (← peek).lexeme with
  | .keyword .const =>
    skip
    return Node.plain "const_declaration"
      (← oneOrSeveral r.constSpec (r.eachTerminatedSpecs r.constSpec))
  | .keyword .var =>
    skip
    return Node.plain "var_declaration"
      (← oneOrSeveral r.varSpec do
        return [Node.plain "var_spec_list" (← r.eachTerminatedSpecs r.varSpec)])
  | .keyword .type =>
    skip
    return Node.plain "type_declaration"
      (← oneOrSeveral r.typeSpec (r.terminatedSpecs r.typeSpec))
  | _ => refuse

/-- A declaration of imports. -/
def importDeclaration (r : Rules) : Parser Node := do
  expectKeyword .import
  return Node.plain "import_declaration"
    (← oneOrSeveral importSpec do
      return [Node.plain "import_spec_list" (← r.terminatedSpecs importSpec)])

/-- The clause that names the package. -/
def packageClause : Parser Node := do
  expectKeyword .package
  let _ ← name
  return Node.plain "package_clause" []

/-- What follows the parameters of a function or method: a result and a body, each perhaps. -/
def functionRest (r : Rules) : Parser Unit := do
  r.result? true
  if ← continuesWith true .openBrace then r.block

/-- A function. -/
def function (r : Rules) : Parser Node := do
  expectKeyword .func
  let t ← name
  if ← atSign .openBracket then r.typeParameters
  r.parameters
  r.functionRest
  return Node.plain "function_declaration" [nameNode "identifier" t]

/-- A method, up to and with its parameters. -/
def methodHead (r : Rules) : Parser Text := do
  expectKeyword .func
  r.parameters
  let t ← name
  r.parameters
  return t

/-- A method. -/
def method (r : Rules) : Parser Node := do
  let t ← r.methodHead
  r.functionRest
  return Node.plain "method_declaration" [nameNode "field_identifier" t]

end Rules

end GoLexicon.Go
