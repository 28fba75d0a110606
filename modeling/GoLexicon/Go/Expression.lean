import GoLexicon.Go.Types
/-!
# Expressions of Go

An expression is operands with joining signs between them; which sign binds closer is of no account
here. An operand has signs in front, and behind it selectors, calls, brackets and the elements of a
literal, as long as they fit what it can be (`Reading`).

Where a longer sign cannot stand, its characters are read one by one: in `a--b` inside parentheses
the second minus belongs to `b`.
-/

namespace GoLexicon.Go

/-- The names that stand for values of the language itself. -/
def valueNames : List Text := ["nil", "true", "false", "iota"]

/-- The names of the functions whose first argument is a type. -/
def typeFunctionNames : List Text := ["new", "make"]

namespace Rules

open GoLexicon.Go.Parser

/-- An argument of a call, perhaps standing for many. -/
def argument (r : Rules) : Parser Unit := do
  r.expressionIn {}
  let _ ← takeSign? .ellipsis

/-- The arguments of a call. -/
def arguments (r : Rules) : Parser Unit := do
  expect .openParen
  commaListUpTo r.limit r.argument .closeParen

/-- The arguments of a call whose first one is a type. -/
def typeThenArguments (r : Rules) : Parser Unit := do
  expect .openParen
  unless ← takeSign? .closeParen do
    r.type false
    loop r.limit do
      if ← takeSign? .comma then
        if ← atSign .closeParen then return false
        r.expressionIn {}
        return true
      else return false
    expect .closeParen

/-- The one value that a type is applied to. -/
def converted (r : Rules) : Parser Unit := do
  expect .openParen
  r.expressionIn {}
  let _ ← takeSign? .comma
  expect .closeParen

/-- An element of a literal, or its key: an expression, or elements in braces. -/
def literalItem (r : Rules) : Parser Unit := do
  if ← atSign .openBrace then r.elements else r.expressionIn {}

/-- The elements of a literal, in braces. -/
def elementsBody (r : Rules) : Parser Unit := do
  expect .openBrace
  looseListUpTo r.limit (do
    r.literalItem
    if ← takeSign? .colon then r.literalItem) .closeBrace

/-- A function with its body, or the type of a function. -/
def functionOperand (r : Rules) : Parser Reading := do
  expectKeyword .func
  r.parameters
  r.result? false
  if ← atSign .openBrace then
    r.block
    return .plain
  else return .ofType .no

/-- An operand that begins with a bracket: an array or slice type. An array type whose length is
left open can only head a literal. -/
def bracketOperand (r : Rules) : Parser Reading := do
  expect .openBracket
  if ← takeSign? .ellipsis then
    expect .closeBracket
    r.type false
    return { literal := .yes }
  else
    unless ← takeSign? .closeBracket do
      r.expressionIn {}
      expect .closeBracket
    r.type false
    return .ofType .yes

/-- An operand without what may stand in front of it or behind it. -/
def operandCore (r : Rules) (c : Context) : Parser Reading := do
  match (← peek).lexeme with
  | .name t =>
    skip
    if t ∈ valueNames then return .plain
    else if t ∈ typeFunctionNames then
      if ← continuesWith c.lineEnds .openParen then r.typeThenArguments
      return .plain
    else return .ofName
  | .number | .rune | .string =>
    skip
    return .plain
  | .sign .openParen =>
    skip
    let inner ← r.expression {}
    require (inner.expression || inner.type)
    expect .closeParen
    return { expression := inner.expression, type := inner.type, union := inner.type }
  | .sign .openBracket => r.bracketOperand
  | .keyword .func => r.functionOperand
  | .keyword .map | .keyword .struct =>
    r.typeBody false
    return .ofType .yes
  | .keyword .interface | .keyword .chan | .sign .arrow =>
    r.typeBody false
    return .ofType .no
  | _ => refuse

/-- A selector, a type in parentheses, or the question for a type, behind a dot. -/
def afterDot (r : Rules) (c : Context) (operand : Reading) : Parser Reading := do
  skip
  if ← takeSign? .openParen then
    require operand.expression
    if ← take? (.keyword .type) then
      require c.asksType
      expect .closeParen
      return { typeQuestion := true }
    else
      r.type false
      expect .closeParen
      return .plain
  else
    let _ ← name
    let isType := operand.bareName
    return {
      expression := operand.expression, type := isType, union := isType, generic := isType,
      literal := if isType then .named else .no }

/-- An index, bounds, or type arguments. -/
def afterBracket (r : Rules) (operand : Reading) : Parser Reading := do
  skip
  match ← r.brackets with
  | .slice =>
    require operand.expression
    return .plain
  | inside =>
    let isType := operand.generic && inside.areTypes
    let after : Reading := {
      expression :=
        (operand.expression && inside.isExpression) || (operand.type && inside.arePlainTypes)
      type := isType, union := isType, literal := if isType then .named else .no
      callee := operand.expression && inside.areTypes }
    require (after.isPossible || after.callee)
    return after

/-- What stands behind an operand, if anything does. -/
def behindOperand (r : Rules) (c : Context) (operand : Reading) : Parser (Option Reading) := do
  let t ← peek
  if operand.typeQuestion || c.closes operand t then return none
  else match t.lexeme with
    | .sign .dot => if operand.expression then some <$> r.afterDot c operand else return none
    | .sign .openParen =>
      if operand.expression || operand.callee then
        r.arguments
        return some .plain
      else if operand.type then
        r.converted
        return some .plain
      else return none
    | .sign .openBracket =>
      if operand.expression || operand.type then some <$> r.afterBracket operand else return none
    | .sign .openBrace =>
      if operand.literal = .yes || (operand.literal = .named && !c.braceOpensBlock) then
        r.elements
        return some .plain
      else return none
    | _ => return none

/-- An operand with what stands behind it. -/
def operand (r : Rules) (c : Context) : Parser Reading := do
  let reading ← repeated (r.behindOperand c) r.limit (← r.operandCore c)
  require (reading.typeQuestion || reading.isPossible)
  return reading

/-- What a sign in front makes of a reading. -/
def underSign (s : Sign) (operand : Reading) : Reading :=
  let isType := operand.type && (s = .star || s = .tilde)
  { expression := operand.expression && s ≠ .tilde, type := isType, union := isType }

/-- The sign in front of an operand, if there is one: the first character of a longer sign. -/
def signInFront? : Parser (Option Sign) := do
  match ← get with
  | ⟨.sign .arrow, _, _⟩ :: ⟨.keyword .chan, _, _⟩ :: _ => return none
  | ⟨.sign s, _, _⟩ :: _ =>
    match s with
    | .plus | .minus | .bang | .caret | .star | .ampersand | .arrow | .tilde =>
      skip
      return some s
    | .increment =>
      leave .plus
      return some .plus
    | .decrement =>
      leave .minus
      return some .minus
    | .andAnd =>
      leave .ampersand
      return some .ampersand
    | .andNot =>
      leave .caret
      return some .ampersand
    | _ => return none
  | _ => return none

/-- An operand with the signs in front of it. -/
def signedOperand (r : Rules) (c : Context) : Parser Reading := do
  let signs ← repeated (fun signs => do return (← signInFront?).map (· :: signs)) (2 * r.limit) []
  match signs with
  | [] => r.operand c
  | signs =>
    let inner ← r.operand { c with asksType := false }
    let reading := signs.foldl (fun reading s => underSign s reading) inner
    require (reading.expression || reading.type)
    return reading

/-- Passes a sign that joins two operands, and tells whether it is the bar that can also stand
between types. -/
def joiningSign? (c : Context) (reading : Reading) : Parser (Option Bool) := do
  let t ← peek
  if c.closes reading t then return none
  else match t.lexeme with
    | .sign .pipe =>
      skip
      return some true
    | .sign s =>
      if !reading.expression then return none
      else match s with
        | .joining | .star | .ampersand | .caret | .plus | .minus | .less | .andAnd | .andNot =>
          skip
          return some false
        | .increment =>
          if c.signsEnd then return none
          leave .plus
          return some false
        | .decrement =>
          if c.signsEnd then return none
          leave .minus
          return some false
        | .arrow =>
          if c.signsEnd then return none
          leave .minus
          return some false
        | _ => return none
    | _ => return none

/-- An expression, or what may turn out to be one. -/
def expressionBody (r : Rules) (c : Context) : Parser Reading := do
  let first ← r.signedOperand c
  if first.typeQuestion then return first
  repeated (fun reading => do
    match ← joiningSign? c reading with
    | none => return none
    | some isBar =>
      let next ← r.signedOperand { c with asksType := false }
      let joined : Reading := {
        expression := reading.expression && next.expression
        union := isBar && reading.union && next.union }
      require (joined.expression || joined.union)
      return some joined) r.limit first

end Rules

end GoLexicon.Go
