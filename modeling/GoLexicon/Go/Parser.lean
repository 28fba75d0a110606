import GoLexicon.Go.Token
/-!
# Parsers

A parser reads from the front of a list of tokens, or stops at the place of a token that cannot
stand there. Parsers that repeat something are given a limit, which is never reached if it is the
number of tokens: each round reads one.
-/

namespace GoLexicon.Go

/-- A reader of tokens. -/
abbrev Parser := StateT (List Token) (Except Place)

namespace Parser

/-- The next token; behind the last one, the source has ended. -/
def peek : Parser Token := do
  match ← get with
  | t :: _ => return t
  | [] => return ⟨.ending, ⟨0, 0⟩, false⟩

/-- Passes a token. -/
def skip : Parser Unit := modify List.tail

/-- The next token cannot stand here. -/
def refuse {α : Type} : Parser α := do throw (← peek).place

/-- Tries a parser, and reads nothing if it fails. -/
def attempt {α : Type} (p : Parser α) : Parser (Option α) := fun tokens =>
  match p tokens with
  | .ok (a, rest) => .ok (some a, rest)
  | .error _ => .ok (none, tokens)

/-- Refuses unless a condition holds. -/
def require (condition : Bool) : Parser Unit := if condition then pure () else refuse

/-- Is the next token a given one? -/
def at? (l : Lexeme) : Parser Bool := do return (← peek).lexeme = l

/-- Is the next token a given sign? -/
def atSign (s : Sign) : Parser Bool := at? (.sign s)

/-- Is the next token a given reserved word? -/
def atKeyword (w : Keyword) : Parser Bool := at? (.keyword w)

/-- Passes a given token if it is next. -/
def take? (l : Lexeme) : Parser Bool := do
  if ← at? l then
    skip
    return true
  else return false

/-- Passes a given sign if it is next. -/
def takeSign? (s : Sign) : Parser Bool := take? (.sign s)

/-- Passes a given sign, which must be next. -/
def expect (s : Sign) : Parser Unit := do
  unless ← takeSign? s do refuse

/-- Passes a given reserved word, which must be next. -/
def expectKeyword (w : Keyword) : Parser Unit := do
  unless ← take? (.keyword w) do refuse

/-- Puts a sign in the place of the next token: what is left of a longer one of which a part is
read. -/
def leave (s : Sign) : Parser Unit := modify fun
  | t :: rest => { t with lexeme := .sign s, startsLine := false } :: rest
  | [] => []

/-- Passes a name. -/
def name : Parser Text := do
  match (← peek).lexeme with
  | .name t =>
    skip
    return t
  | _ => refuse

/-- Passes a name if it is next on the same line. -/
def nameOnLine? : Parser Unit := do
  let t ← peek
  match t.lexeme with
  | .name _ => unless t.startsLine do skip
  | _ => pure ()

/-- Repeats a step until it declines. -/
def repeated {α : Type} (step : α → Parser (Option α)) : Nat → α → Parser α
  | 0, a => return a
  | n + 1, a => do
    match ← step a with
    | some b => repeated step n b
    | none => return a

/-- Repeats a step until it declines. -/
def loop (limit : Nat) (step : Parser Bool) : Parser Unit :=
  repeated (fun _ => do return if ← step then some () else none) limit ()

/-- Items with commas between them. -/
def commaList (limit : Nat) (item : Parser Unit) : Parser Unit := do
  item
  loop limit do
    if ← takeSign? .comma then
      item
      return true
    else return false

/-- Items with commas between them up to a closing sign, perhaps none, perhaps with a comma behind
the last one. -/
def commaListUpTo (limit : Nat) (item : Parser Unit) (close : Sign) : Parser Unit := do
  if ← takeSign? close then return
  item
  loop limit do
    if ← takeSign? .comma then
      if ← atSign close then return false
      item
      return true
    else return false
  expect close

/-- The same, where a comma may also stand without any item. -/
def looseListUpTo (limit : Nat) (item : Parser Unit) (close : Sign) : Parser Unit := do
  if ← takeSign? .comma then expect close else commaListUpTo limit item close

/-- Passes the end of a statement, if there is one: a line end, a semicolon, a NUL, or the end of
the source. -/
def terminator? : Parser Bool := do
  let t ← peek
  if t.startsLine || t.lexeme = .ending then return true
  else if t.lexeme = .sign .semicolon || t.lexeme = .sign .nul then
    skip
    return true
  else return false

/-- Items up to a closing sign, each ended but the last, which may be. -/
def terminatedUpTo (limit : Nat) (item : Parser Unit) (close : Sign) : Parser Unit := do
  if ← takeSign? close then return
  item
  loop limit do
    if ← terminator? then
      if ← atSign close then return false
      item
      return true
    else return false
  expect close

end Parser

end GoLexicon.Go
