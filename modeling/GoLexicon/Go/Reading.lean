import GoLexicon.Go.Parser
/-!
# Readings

Before a construct is complete it is often open whether it is an expression or a type: `a`, `(a)`,
`*a`, `a.b` and `a[b]` can be either. Such a construct is parsed once, and a `Reading` says what it
can be. What is read next, and the place where the construct stands, then decide.

The grammar is recursive; `Rules` are its recursive rules, as the other rules see them.
-/

namespace GoLexicon.Go

/-- May a type be followed by the elements of a literal in braces? -/
inductive LiteralHead where
  | no
  /-- It may, unless a brace opens a block here: the type is a name. -/
  | named
  | yes
  deriving DecidableEq

/-- What a construct that has been parsed can be. -/
structure Reading where
  expression : Bool := false
  type : Bool := false
  /-- A type, or several with a bar between them. -/
  union : Bool := false
  /-- A name on its own, which can be that of a package. -/
  bareName : Bool := false
  /-- A type that takes type arguments. -/
  generic : Bool := false
  literal : LiteralHead := .no
  /-- A function with type arguments: an expression once it is called. -/
  callee : Bool := false
  /-- The question for the type of an expression that heads a switch. -/
  typeQuestion : Bool := false

namespace Reading

/-- Nothing but an expression. -/
def plain : Reading := { expression := true }

/-- A name. -/
def ofName : Reading :=
  { expression := true, type := true, union := true, bareName := true, generic := true,
    literal := .named }

/-- Nothing but a type; `literal` says whether elements may follow. -/
def ofType (literal : LiteralHead) : Reading := { type := true, union := true, literal := literal }

/-- Can the construct be anything at all? -/
def isPossible (r : Reading) : Bool := r.expression || r.type || r.union || r.literal ≠ .no

end Reading

/-- The place where an expression stands. -/
structure Context where
  /-- A line end closes the expression as soon as it is complete. -/
  lineEnds : Bool := false
  /-- A brace behind a name opens a block. -/
  braceOpensBlock : Bool := false
  /-- The signs `++`, `--` and `<-` end the expression: it begins a statement. -/
  signsEnd : Bool := false
  /-- The question for a type may stand here. -/
  asksType : Bool := false

/-- Does a line end close a construct in front of a token? -/
def Context.closes (c : Context) (r : Reading) (t : Token) : Bool :=
  c.lineEnds && r.expression && t.startsLine

/-- The recursive rules of the grammar. -/
structure Rules where
  /-- How often anything can be repeated. -/
  limit : Nat
  expression : Context → Parser Reading
  /-- A type; the argument says whether a line end closes it as soon as it is complete. -/
  type : Bool → Parser Unit
  /-- The elements of a literal, in braces. -/
  elements : Parser Unit
  /-- Statements in braces. -/
  block : Parser Unit
  /-- A statement, and the kind of its node. -/
  statement : Parser Text

namespace Rules

/-- An expression that stands somewhere. -/
def expressionIn (r : Rules) (c : Context) : Parser Unit := do
  let reading ← r.expression c
  Parser.require reading.expression

/-- Expressions with commas between them. -/
def expressionsIn (r : Rules) (c : Context) : Parser Unit :=
  Parser.commaList r.limit (r.expressionIn c)

/-- Types with bars between them. -/
def union (r : Rules) (lineEnds : Bool) : Parser Unit := do
  r.type lineEnds
  Parser.loop r.limit do
    let t ← Parser.peek
    if t.lexeme = .sign .pipe && !(lineEnds && t.startsLine) then
      Parser.skip
      r.type lineEnds
      return true
    else return false

end Rules

/-- What stands in brackets. -/
inductive Brackets where
  /-- Two or three bounds. -/
  | slice
  /-- Expressions or types; is there a comma? -/
  | items (readings : List Reading) (hasComma : Bool)

namespace Brackets

/-- Can the brackets hold type arguments? -/
def areTypes : Brackets → Bool
  | slice => false
  | items readings _ => readings.all (·.union)

/-- Can the brackets hold types, without bars? -/
def arePlainTypes : Brackets → Bool
  | slice => false
  | items readings _ => readings.all (·.type)

/-- Can the brackets hold one expression? -/
def isExpression : Brackets → Bool
  | items [reading] false => reading.expression
  | _ => false

end Brackets

namespace Rules

open GoLexicon.Go.Parser

/-- The bounds of a slice behind the first one. Of three bounds only the first may be left out. -/
def bounds (r : Rules) : Parser Unit := do
  expect .colon
  unless ← takeSign? .closeBracket do
    r.expressionIn {}
    unless ← takeSign? .closeBracket do
      expect .colon
      r.expressionIn {}
      expect .closeBracket

/-- What stands behind an opening bracket up to the closing one. -/
def brackets (r : Rules) : Parser Brackets := do
  if ← atSign .colon then
    r.bounds
    return .slice
  else
    let first ← r.expression {}
    if first.expression && (← atSign .colon) then
      r.bounds
      return .slice
    else
      let (rest, hasComma) ← repeated (fun (readings, _) => do
        if ← takeSign? .comma then
          if ← atSign .closeBracket then return some (readings, true)
          return some ((← r.expression {}) :: readings, true)
        else return none) r.limit (([] : List Reading), false)
      expect .closeBracket
      return .items (first :: rest) hasComma

end Rules

end GoLexicon.Go
