import GoLexicon.Go.Declaration
/-!
# Statements of Go

A statement is checked, and the kind of its node is all that is kept. Statements in a list are ended
by line ends or semicolons, the last one may do without. A semicolon can also be a statement, an
empty one, that wants an end of its own.
-/

namespace GoLexicon.Go

/-- What a statement without a keyword in front can be. -/
inductive Simple where
  | expression | send | increment | decrement | assignment | definition
  /-- What a loop ranges over. -/
  | range
  /-- The question for a type that heads a switch. -/
  | typeQuestion
  deriving DecidableEq

/-- The kind of node of such a statement. -/
def Simple.kind : Simple → Text
  | expression => "expression_statement"
  | send => "send_statement"
  | increment => "inc_statement"
  | decrement => "dec_statement"
  | assignment => "assignment_statement"
  | definition => "short_var_declaration"
  | range => "range_clause"
  | typeQuestion => "type_switch_header"

/-- The place where such a statement stands. -/
structure SimpleContext where
  /-- A line end ends it as soon as it is complete. -/
  lineEnds : Bool := false
  /-- A brace behind a name in its first expression opens a block. -/
  blockFollows : Bool := false
  /-- A brace behind a name in its last expression opens a block. -/
  blockEnds : Bool := false
  /-- It may ask for a type. -/
  asksType : Bool := false
  /-- It may say what a loop ranges over. -/
  ranges : Bool := false

namespace Rules

open GoLexicon.Go.Parser

/-- The right side of an assignment or definition. -/
def rightSide (r : Rules) (c : SimpleContext) (definition : Bool) : Parser Simple := do
  if c.ranges && (← take? (.keyword .range)) then
    r.expressionIn { braceOpensBlock := true }
    return .range
  else
    let context : Context := {
      lineEnds := c.lineEnds, braceOpensBlock := c.blockEnds, asksType := c.asksType && definition }
    let first ← r.expression context
    if first.typeQuestion then return .typeQuestion
    require first.expression
    loop r.limit do
      if ← takeSign? .comma then
        r.expressionIn { context with asksType := false }
        return true
      else return false
    return if definition then .definition else .assignment

/-- A statement without a keyword in front. -/
def simple (r : Rules) (c : SimpleContext) : Parser Simple := do
  let context : Context := {
    lineEnds := c.lineEnds, braceOpensBlock := c.blockFollows, signsEnd := true,
    asksType := c.asksType }
  let first ← r.expression context
  if first.typeQuestion then return .typeQuestion
  require first.expression
  let t ← peek
  if c.lineEnds && t.startsLine then return .expression
  match t.lexeme with
  | .sign .increment =>
    skip
    return .increment
  | .sign .decrement =>
    skip
    return .decrement
  | .sign .arrow =>
    skip
    r.expressionIn { lineEnds := c.lineEnds, braceOpensBlock := c.blockEnds }
    return .send
  | .sign .assign | .sign .operateAndAssign =>
    skip
    r.rightSide { c with ranges := c.ranges && t.lexeme = .sign .assign } false
  | .sign .define =>
    skip
    r.rightSide c true
  | .sign .comma =>
    skip
    r.expressionsIn { lineEnds := c.lineEnds, braceOpensBlock := c.blockFollows }
    let t ← peek
    require !(c.lineEnds && t.startsLine)
    match t.lexeme with
    | .sign .assign | .sign .operateAndAssign =>
      skip
      r.rightSide { c with ranges := c.ranges && t.lexeme = .sign .assign } false
    | .sign .define =>
      skip
      r.rightSide c true
    | _ => refuse
  | _ => return .expression

/-- Can an expression begin with a lexeme? -/
def beginsExpression : Lexeme → Bool
  | .number | .rune | .string | .sign .openParen => true
  | .sign s =>
    s ∈ [Sign.openBracket, .plus, .minus, .bang, .caret, .star, .ampersand, .arrow, .increment,
      .decrement, .andAnd, .andNot]
  | l => l.beginsType

/-- Does a list of statements end here? -/
def atListEnd : Parser Bool := do
  return (← atSign .closeBrace) || (← atKeyword .case) || (← atKeyword .default)

/-- Is a label next, with a list of statements ending behind it? -/
def atLastLabel : Parser Bool := do
  match ← get with
  | ⟨.name _, _, _⟩ :: ⟨.sign .colon, _, false⟩ :: t :: _ =>
    return t.lexeme = .sign .closeBrace || t.lexeme = .keyword .case || t.lexeme = .keyword .default
  | _ => return false

/-- Statements up to the end of their list. -/
def statements (r : Rules) : Parser Unit := do
  loop r.limit do
    if ← atListEnd then return false
    else if ← atLastLabel then
      skip
      skip
      return false
    else
      let _ ← r.statement
      if ← terminator? then return true
      else
        require (← atListEnd)
        return false
  require (← atListEnd)

/-- Statements in braces. -/
def blockBody (r : Rules) : Parser Unit := do
  expect .openBrace
  r.statements
  expect .closeBrace

/-- A condition, perhaps with a statement in front, and the block that it guards. -/
def guardedBlock (r : Rules) : Parser Unit := do
  let first ← r.simple { blockFollows := true }
  if ← takeSign? .semicolon then r.expressionIn { braceOpensBlock := true }
  else require (first = .expression)
  r.block

/-- A conditional statement. The alternative begins on the line where the block ends. -/
def conditional (r : Rules) : Parser Unit := do
  expectKeyword .if
  r.guardedBlock
  let t ← peek
  if t.lexeme = .keyword .else && !t.startsLine then
    skip
    if ← atKeyword .if then
      let _ ← r.statement
    else r.block

/-- What controls a loop behind its first semicolon. -/
def loopClause (r : Rules) : Parser Unit := do
  unless ← atSign .semicolon do r.expressionIn {}
  expect .semicolon
  unless ← atSign .openBrace do
    let update ← r.simple { blockFollows := true, blockEnds := true }
    require (update ≠ .range)

/-- A loop: over a range, over a clause of three parts, on a condition, or without end. -/
def loopStatement (r : Rules) : Parser Unit := do
  expectKeyword .for
  if ← take? (.keyword .range) then r.expressionIn { braceOpensBlock := true }
  else if ← takeSign? .semicolon then r.loopClause
  else unless ← atSign .openBrace do
    let first ← r.simple { blockFollows := true, ranges := true }
    unless first = .range do
      if ← takeSign? .semicolon then r.loopClause else require (first = .expression)
  r.block

/-- The cases of a switch or a selection, in braces; `choice` is what stands behind `case`. -/
def cases (r : Rules) (choice : Parser Unit) : Parser Unit := do
  expect .openBrace
  loop r.limit do
    if ← take? (.keyword .case) then
      choice
      expect .colon
      r.statements
      return true
    else if ← take? (.keyword .default) then
      expect .colon
      r.statements
      return true
    else return false
  expect .closeBrace

/-- The cases of a switch on values. -/
def valueCases (r : Rules) : Parser Unit := r.cases (r.expressionsIn {})

/-- The cases of a switch on types. -/
def typeCases (r : Rules) : Parser Unit := r.cases (commaList r.limit (r.type false))

/-- The cases of a switch whose head ends with a statement. -/
def casesBehind (r : Rules) (last : Simple) : Parser Text := do
  match last with
  | .typeQuestion =>
    r.typeCases
    return "type_switch_statement"
  | .expression =>
    r.valueCases
    return "expression_switch_statement"
  | _ => refuse

/-- A switch on values or on types. -/
def switchStatement (r : Rules) : Parser Text := do
  expectKeyword .switch
  if ← atSign .openBrace then r.casesBehind .expression
  else
    let context : SimpleContext := { blockFollows := true, asksType := true }
    let first ← r.simple context
    if first ≠ .typeQuestion && (← takeSign? .semicolon) then
      if ← atSign .openBrace then r.casesBehind .expression
      else r.casesBehind (← r.simple context)
    else r.casesBehind first

/-- What a case of a selection waits for: to send a value, or to receive one. -/
def communication (r : Rules) : Parser Unit := do
  r.expressionsIn { signsEnd := true }
  if ← takeSign? .arrow then r.expressionIn {}
  else if (← takeSign? .assign) || (← takeSign? .define) then r.expressionIn {}

/-- Is a label next? -/
def atLabel : Parser Bool := do
  match ← get with
  | ⟨.name _, _, _⟩ :: ⟨.sign .colon, _, false⟩ :: _ => return true
  | _ => return false

/-- A statement, by what it begins with. -/
def statementBody (r : Rules) : Parser Text := do
  if ← atLabel then
    skip
    skip
    let _ ← r.statement
    return "labeled_statement"
  else match (← peek).lexeme with
  | .sign .semicolon =>
    skip
    return "empty_statement"
  | .sign .openBrace =>
    r.block
    return "block"
  | .keyword w =>
    match w with
    | .const | .var | .type => return (← r.declaration).kind
    | .return =>
      skip
      let t ← peek
      if beginsExpression t.lexeme && !t.startsLine then r.expressionsIn { lineEnds := true }
      return "return_statement"
    | .go =>
      skip
      r.expressionIn { lineEnds := true }
      return "go_statement"
    | .defer =>
      skip
      r.expressionIn { lineEnds := true }
      return "defer_statement"
    | .if =>
      r.conditional
      return "if_statement"
    | .for =>
      r.loopStatement
      return "for_statement"
    | .switch => r.switchStatement
    | .select =>
      skip
      r.cases r.communication
      return "select_statement"
    | .fallthrough =>
      skip
      return "fallthrough_statement"
    | .break =>
      skip
      nameOnLine?
      return "break_statement"
    | .continue =>
      skip
      nameOnLine?
      return "continue_statement"
    | .goto =>
      skip
      let _ ← name
      return "goto_statement"
    | _ => return (← r.simple { lineEnds := true }).kind
  | _ => return (← r.simple { lineEnds := true }).kind

end Rules

end GoLexicon.Go
