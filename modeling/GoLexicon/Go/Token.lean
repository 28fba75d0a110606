import GoLexicon.Text.Basic
/-!
# Tokens of Go

The words, signs and literals that Go source is made of. Which line a token stands on matters to the
grammar only in one way: a token may be the first after a line end.
-/

namespace GoLexicon.Go

/-- The reserved words. -/
inductive Keyword where
  | «break» | default | func | interface | select
  | case | defer | go | map | struct
  | chan | «else» | goto | package | switch
  | const | fallthrough | «if» | range | type
  | «continue» | «for» | «import» | «return» | var
  deriving DecidableEq, Repr

namespace Keyword

/-- All reserved words, in the order of the language definition. -/
def all : List Keyword := [
  .break, .default, .func, .interface, .select,
  .case, .defer, .go, .map, .struct,
  .chan, .else, .goto, .package, .switch,
  .const, .fallthrough, .if, .range, .type,
  .continue, .for, .import, .return, .var]

/-- How a reserved word is written. -/
def spelling : Keyword → Text
  | .break => "break" | .default => "default" | .func => "func" | .interface => "interface"
  | .select => "select" | .case => "case" | .defer => "defer" | .go => "go" | .map => "map"
  | .struct => "struct" | .chan => "chan" | .else => "else" | .goto => "goto"
  | .package => "package" | .switch => "switch" | .const => "const"
  | .fallthrough => "fallthrough" | .if => "if" | .range => "range" | .type => "type"
  | .continue => "continue" | .for => "for" | .import => "import" | .return => "return"
  | .var => "var"

/-- The reserved word that is written so. -/
def ofText? (t : Text) : Option Keyword := all.find? (·.spelling = t)

end Keyword

/-- The signs. Those that only ever join two operands, or assign with an operation, are told apart
no further. -/
inductive Sign where
  | openParen | closeParen | openBracket | closeBracket | openBrace | closeBrace
  | comma | semicolon | colon | dot | ellipsis
  | define | assign | operateAndAssign
  | increment | decrement | arrow
  | plus | minus | star | ampersand | caret | bang | tilde | pipe
  | less | andAnd | andNot
  /-- `/ % << >> || == != <= > >=` -/
  | joining
  /-- The character NUL, which ends a statement as a line end does. -/
  | nul
  deriving DecidableEq, Repr

/-- How signs are written, a longer one before its beginnings. -/
def Sign.spellings : List (String × Sign) := [
  ("<<=", operateAndAssign), (">>=", operateAndAssign), ("&^=", operateAndAssign),
  ("...", ellipsis),
  ("+=", operateAndAssign), ("-=", operateAndAssign), ("*=", operateAndAssign),
  ("/=", operateAndAssign), ("%=", operateAndAssign), ("&=", operateAndAssign),
  ("|=", operateAndAssign), ("^=", operateAndAssign),
  ("&&", andAnd), ("&^", andNot), ("||", joining), ("<<", joining), (">>", joining),
  ("==", joining), ("!=", joining), ("<=", joining), (">=", joining),
  ("<-", arrow), ("++", increment), ("--", decrement), (":=", define),
  ("(", openParen), (")", closeParen), ("[", openBracket), ("]", closeBracket),
  ("\x7b", openBrace), ("\x7d", closeBrace), (",", comma), (";", semicolon), (":", colon),
  (".", dot), ("=", assign), ("+", plus), ("-", minus), ("*", star), ("/", joining),
  ("%", joining), ("&", ampersand), ("|", pipe), ("^", caret), ("<", less), (">", joining),
  ("!", bang), ("~", tilde), ("\x00", nul)]

/-- What a token is. -/
inductive Lexeme where
  | name (t : Text)
  | keyword (w : Keyword)
  | sign (s : Sign)
  /-- An integer, floating-point or imaginary literal. -/
  | number
  /-- A character literal. -/
  | rune
  /-- A string literal, raw or interpreted. -/
  | string
  /-- A character that begins no token. -/
  | stray
  /-- The end of the source. -/
  | ending
  deriving DecidableEq, Repr

/-- A place in a source: how many lines stand above it and how many octets before it on its line. -/
structure Place where
  row : Nat
  column : Nat
  deriving DecidableEq, Repr

/-- A token with the place where it begins. -/
structure Token where
  lexeme : Lexeme
  place : Place
  /-- A line ends between this token and the one before it. -/
  startsLine : Bool
  deriving DecidableEq, Repr

end GoLexicon.Go
