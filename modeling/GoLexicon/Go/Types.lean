import GoLexicon.Go.Reading
/-!
# Types of Go

Types, and what belongs to them: parameters and results, fields of structs, elements of interfaces,
type parameters. `lineEnds` says whether a line end closes a type as soon as it is complete; inside
parentheses, brackets and argument lists it does not.

A name with brackets behind it is followed up before it is known what it is: `a [n]T` declares `a`
of an array type, `G[T]` is a type with an argument.
-/

namespace GoLexicon.Go

/-- Can a type without parentheses around it begin so? -/
def Lexeme.beginsType : Lexeme → Bool
  | .name _ => true
  | .keyword .func | .keyword .interface | .keyword .map | .keyword .struct | .keyword .chan => true
  | .sign .openBracket | .sign .star | .sign .arrow | .sign .tilde => true
  | _ => false

namespace Rules

open GoLexicon.Go.Parser

/-- Is the next token a sign that still belongs to what stands in front of it? -/
def continuesWith (lineEnds : Bool) (s : Sign) : Parser Bool := do
  let t ← peek
  return t.lexeme = .sign s && !(lineEnds && t.startsLine)

/-- Type arguments, if there are any. -/
def typeArguments? (r : Rules) (lineEnds : Bool) : Parser Unit := do
  if ← continuesWith lineEnds .openBracket then
    skip
    r.union false
    loop r.limit do
      if ← takeSign? .comma then
        if ← atSign .closeBracket then return false
        r.union false
        return true
      else return false
    expect .closeBracket

/-- What a type name goes on with: a second name behind a dot, and type arguments. -/
def restOfTypeName (r : Rules) (lineEnds : Bool) : Parser Unit := do
  if ← continuesWith lineEnds .dot then
    skip
    let _ ← name
  r.typeArguments? lineEnds

/-- Behind a name in a list of parameters or fields, and an opening bracket: an array or slice type
that the name is declared of, or the arguments of the type that the name is. -/
def bracketsBehindName (r : Rules) (lineEnds : Bool) : Parser Unit := do
  if ← takeSign? .closeBracket then
    r.type lineEnds
  else
    let inside ← r.brackets
    let t ← peek
    let typeFollows := t.lexeme.beginsType || t.lexeme = .sign .openParen
    if typeFollows && inside.isExpression && !(lineEnds && t.startsLine && inside.areTypes) then
      r.type lineEnds
    else require inside.areTypes

/-- A parameter: a type, perhaps with a name in front, and perhaps standing for many. -/
def parameter (r : Rules) : Parser Unit := do
  if ← takeSign? .ellipsis then
    r.type false
  else
    match (← peek).lexeme with
    | .name _ =>
      skip
      match (← peek).lexeme with
      | .sign .comma | .sign .closeParen => pure ()
      | .sign .dot => r.restOfTypeName false
      | .sign .ellipsis =>
        skip
        r.type false
      | .sign .openBracket =>
        skip
        r.bracketsBehindName false
      | _ => r.type false
    | _ => r.type false

/-- Parameters in parentheses. -/
def parameters (r : Rules) : Parser Unit := do
  expect .openParen
  looseListUpTo r.limit r.parameter .closeParen

/-- The result of a function, if it has one. -/
def result? (r : Rules) (lineEnds : Bool) : Parser Unit := do
  let t ← peek
  unless lineEnds && t.startsLine do
    if t.lexeme = .sign .openParen then r.parameters
    else if t.lexeme.beginsType then r.type lineEnds

/-- A field of a struct: names with a type, or a type that stands for itself; perhaps with a tag. -/
def field (r : Rules) : Parser Unit := do
  if ← takeSign? .star then
    let _ ← name
    r.restOfTypeName true
  else
    let _ ← name
    let t ← peek
    unless t.startsLine do
      match t.lexeme with
      | .string | .sign .semicolon | .sign .nul | .sign .closeBrace => pure ()
      | .sign .comma =>
        skip
        commaList r.limit (do let _ ← name)
        r.type true
      | .sign .dot => r.restOfTypeName true
      | .sign .openBracket =>
        skip
        r.bracketsBehindName true
      | _ => r.type true
  let t ← peek
  if t.lexeme = .string && !t.startsLine then skip

/-- An element of an interface: a method, or types with bars between them. -/
def element (r : Rules) : Parser Unit := do
  match ← get with
  | ⟨.name _, _, _⟩ :: ⟨.sign .openParen, _, false⟩ :: _ =>
    skip
    r.parameters
    r.result? true
  | _ => r.union true

/-- Fields or elements in braces. -/
def members (r : Rules) (member : Parser Unit) : Parser Unit := do
  expect .openBrace
  terminatedUpTo r.limit member .closeBrace

/-- A channel type behind `chan`. -/
def channelElement (r : Rules) (lineEnds : Bool) : Parser Unit := do
  let _ ← takeSign? .arrow
  r.type lineEnds

/-- A type, by what it begins with. -/
def typeBody (r : Rules) (lineEnds : Bool) : Parser Unit := do
  match (← peek).lexeme with
  | .name _ =>
    skip
    r.restOfTypeName lineEnds
  | .sign .star | .sign .tilde =>
    skip
    r.type lineEnds
  | .sign .openParen =>
    skip
    r.type false
    expect .closeParen
  | .sign .openBracket =>
    skip
    unless ← takeSign? .closeBracket do
      r.expressionIn {}
      expect .closeBracket
    r.type lineEnds
  | .sign .arrow =>
    skip
    expectKeyword .chan
    r.type lineEnds
  | .keyword .chan =>
    skip
    r.channelElement lineEnds
  | .keyword .map =>
    skip
    expect .openBracket
    r.type false
    expect .closeBracket
    r.type lineEnds
  | .keyword .func =>
    skip
    r.parameters
    r.result? lineEnds
  | .keyword .struct =>
    skip
    r.members r.field
  | .keyword .interface =>
    skip
    r.members r.element
  | _ => refuse

/-- Type parameters in brackets: names, each group with the types that it may stand for. -/
def typeParameters (r : Rules) : Parser Unit := do
  expect .openBracket
  let parameter : Parser Unit := do
    commaList r.limit (do let _ ← name)
    r.union false
  parameter
  loop r.limit do
    if ← takeSign? .comma then
      if ← atSign .closeBracket then return false
      parameter
      return true
    else return false
  expect .closeBracket

end Rules

end GoLexicon.Go
