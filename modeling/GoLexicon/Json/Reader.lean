import GoLexicon.Json.Basic
/-!
# Reading JSON

A document is first cut into tokens (`Json.tokens`), and the tokens are then read one after the
other with a stack of the lists and objects that are open (`Reading.step`). A token that cannot come
next refuses the document there, so of several faults the first one counts, and what is wrong inside
a token is only told where the token could stand.

Beyond the standard, `NaN`, `Infinity` and `-Infinity` are numbers. A document may be refused for
two other reasons than its grammar: lists and objects stand inside each other too deep, or an
integer has too many digits.
-/

namespace GoLexicon.Json

/-- What is wrong with a document. -/
inductive Trouble where
  | byteOrderMark | value | memberName | colon | comma | extra
  | openString | controlCharacter | escape | codeUnit
  deriving DecidableEq, Repr

/-- The words for it. -/
def Trouble.message : Trouble → Text
  | byteOrderMark => "Unexpected UTF-8 BOM (decode using utf-8-sig)"
  | value => "Expecting value"
  | memberName => "Expecting property name enclosed in double quotes"
  | colon => "Expecting ':' delimiter"
  | comma => "Expecting ',' delimiter"
  | extra => "Extra data"
  | openString => "Unterminated string starting at"
  | controlCharacter => "Invalid control character at"
  | escape => "Invalid \\escape"
  | codeUnit => "Invalid \\uXXXX escape"

/-- A refusal: what is wrong, and how many code points stand before the place. -/
structure Refusal where
  trouble : Trouble
  position : Nat
  /-- The line of the place, from one. -/
  line : Nat
  /-- The column of the place, from one. -/
  column : Nat
  deriving DecidableEq, Repr

/-- The words for a refusal. -/
def Refusal.message (r : Refusal) : Text :=
  r.trouble.message ++ ": line " ++ Text.ofNat r.line ++ " column " ++ Text.ofNat r.column
    ++ " (char " ++ Text.ofNat r.position ++ ")"

/-- A refusal of a document at a place. -/
def Refusal.at (document : Text) (trouble : Trouble) (position : Nat) : Refusal :=
  let before := document.take position
  let onLine := before.reverse.takeWhile (· ≠ CodePoint.ofChar '\n')
  ⟨trouble, position, 1 + before.count (CodePoint.ofChar '\n'), onLine.length + 1⟩

/-- Why a document is not read. -/
inductive Failure where
  | refused (r : Refusal)
  | tooDeep (inList : Bool)
  | tooManyDigits (count : Nat)
  deriving DecidableEq, Repr

/-- How deep lists and objects may stand inside each other in a document from outside. The format
sets no limit: this one is that of a reader which opens a call for each level, and may have 1000
open calls, of which 15 are taken for those that lead to it. It moves with the place that the reader
is called from. Theorems speak of the limit, whatever its number. -/
def nestingLimit : Nat := 985

/-- No integer may have more digits than this. -/
def digitLimit : Nat := 4300

/-! ## Tokens -/

/-- What a document is made of. -/
inductive Lexeme where
  | openBrace | closeBrace | openBracket | closeBracket | comma | colon
  | string (t : Text)
  /-- A string that is broken at `offset` code points behind its quote. -/
  | brokenString (trouble : Trouble) (offset : Nat)
  /-- A number or one of the words for values. -/
  | scalar (v : Json)
  | longInteger (digits : Nat)
  | stray

/-- A token and how many code points stand before it. -/
structure Token where
  lexeme : Lexeme
  position : Nat

/-- The blanks between tokens. -/
def isBlank (c : CodePoint) : Bool := c = ' ' || c = '\n' || c = '\t' || c = '\r'

/-- The character that a letter stands for behind a backslash. -/
def escaped? (c : CodePoint) : Option CodePoint :=
  if c = '"' || c = '\\' || c = '/' then some c
  else if c = 'b' then some '\x08'
  else if c = 'f' then some '\x0c'
  else if c = 'n' then some '\n'
  else if c = 'r' then some '\r'
  else if c = 't' then some '\t'
  else none

/-- The number that four hexadecimal digits write at the front of a text with more behind them. -/
def codeUnit? : Text → Option Nat
  | a :: b :: c :: d :: _ :: _ => do
    let a ← a.hexValue?
    let b ← b.hexValue?
    let c ← c.hexValue?
    let d ← d.hexValue?
    return ((a * 16 + b) * 16 + c) * 16 + d
  | _ => none

/-- A text with one more code unit in front: the first half of a pair joins the second half, which
is the head of the text exactly if it was written by a code unit, too. -/
def joinUnit (unit : Nat) (headIsUnit : Bool) (t : Text) : Text :=
  match t with
  | low :: rest =>
    if headIsUnit && 0xD800 ≤ unit && unit < 0xDC00 && 0xDC00 ≤ low.val && low.val < 0xE000 then
      CodePoint.ofNat (0x10000 + (unit - 0xD800) * 0x400 + (low.val - 0xDC00)) :: rest
    else CodePoint.ofNat unit :: t
  | [] => [CodePoint.ofNat unit]

/-- The content of a string up to its closing quote. -/
structure Content where
  text : Text
  /-- How many code points it takes, with the closing quote. -/
  size : Nat
  /-- The text begins with what a code unit wrote. -/
  headIsUnit : Bool

/-- Content with a character in front that took some code points to write. -/
def Content.push (c : CodePoint) (taken : Nat) (content : Content) : Content :=
  ⟨c :: content.text, content.size + taken, false⟩

/-- The content of the string whose opening quote stands in front of a text, or what is wrong with
it, and where. -/
def content : Text → Except (Trouble × Nat) Content
  | [] => .error (.openString, 0)
  | c :: rest =>
    let further (taken : Nat) : Except (Trouble × Nat) Content → Except (Trouble × Nat) Content
      | .error (.openString, _) => .error (.openString, 0)
      | .error (trouble, offset) => .error (trouble, offset + taken)
      | .ok c => .ok c
    if c = '"' then .ok ⟨[], 1, false⟩
    else if c.val < 0x20 then .error (.controlCharacter, 0)
    else if c = '\\' then
      match rest with
      | [] => .error (.openString, 0)
      | e :: behind =>
        if e = 'u' then
          match codeUnit? behind, behind with
          | some unit, _ :: _ :: _ :: _ :: behind' =>
            further 6 ((content behind').map fun k =>
              ⟨joinUnit unit k.headIsUnit k.text, k.size + 6, true⟩)
          | _, _ => .error (.codeUnit, 1)
        else match escaped? e with
          | some d => further 2 ((content behind).map (·.push d 2))
          | none => .error (.escape, 0)
    else further 1 ((content rest).map (·.push c 1))

/-- The words for values. -/
def words : List (String × Json) := [
  ("null", .null), ("true", .bool true), ("false", .bool false), ("NaN", .number .nan),
  ("Infinity", .number (.infinite false)), ("-Infinity", .number (.infinite true))]

/-- The value of decimal digits. -/
def digitsValue (digits : Text) : Nat := digits.foldl (fun n c => n * 10 + (c.val - 0x30)) 0

/-- The digits at the front of a text. -/
def leadingDigits (t : Text) : Text := t.takeWhile (·.isDigit)

/-- A number at the front of a text, and how many code points it takes. A fraction or an exponent
belongs to it only if it has digits. -/
def number? (t : Text) : Option (Lexeme × Nat) :=
  let negative := t.head? = some (CodePoint.ofChar '-')
  let sign := if negative then 1 else 0
  let all := leadingDigits (t.drop sign)
  let whole := if all.head? = some (CodePoint.ofChar '0') then all.take 1 else all
  if whole.isEmpty then none
  else
    let behind := t.drop (sign + whole.length)
    let hasPoint := behind.head? = some (CodePoint.ofChar '.')
    let fraction := if hasPoint then leadingDigits (behind.drop 1) else []
    let fractionSize := if fraction.isEmpty then 0 else fraction.length + 1
    let behind := behind.drop fractionSize
    let hasLetter :=
      behind.head? = some (CodePoint.ofChar 'e') || behind.head? = some (CodePoint.ofChar 'E')
    let afterLetter := behind.drop 1
    let down := afterLetter.head? = some (CodePoint.ofChar '-')
    let signed := down || afterLetter.head? = some (CodePoint.ofChar '+')
    let signSize := if signed then 1 else 0
    let power := if hasLetter then leadingDigits (afterLetter.drop signSize) else []
    let powerSize := if power.isEmpty then 0 else power.length + signSize + 1
    let size := sign + whole.length + fractionSize + powerSize
    if fraction.isEmpty && power.isEmpty then
      if digitLimit < whole.length then some (.longInteger whole.length, size)
      else
        let n : Int := digitsValue whole
        some (.scalar (.integer (if negative then -n else n)), size)
    else
      let exponent : Int := if down then -(digitsValue power : Int) else digitsValue power
      let scale := exponent - fraction.length
      some (.scalar (.number (.ofDecimal negative (digitsValue (whole ++ fraction)) scale)), size)

/-- The word for a value at the front of a text, and how many code points it takes. -/
def word? (t : Text) : Option (Lexeme × Nat) :=
  words.findSome? fun (spelling, v) =>
    let spelling := Text.ofString spelling
    if spelling.isPrefixOf t then some (.scalar v, spelling.length) else none

/-- The lexeme that begins with a code point, and how much of the rest belongs to it. -/
def lexeme (c : CodePoint) (rest : Text) : Lexeme × Nat :=
  if c = '\x7b' then (.openBrace, 0)
  else if c = '\x7d' then (.closeBrace, 0)
  else if c = '[' then (.openBracket, 0)
  else if c = ']' then (.closeBracket, 0)
  else if c = ',' then (.comma, 0)
  else if c = ':' then (.colon, 0)
  else if c = '"' then
    match content rest with
    | .ok k => (.string k.text, k.size)
    | .error (trouble, offset) => (.brokenString trouble offset, 0)
  else match number? (c :: rest) <|> word? (c :: rest) with
    | some (l, size) => (l, size - 1)
    | none => (.stray, 0)

/-- The tokens of a text with some code points in front of it. -/
def tokensFrom (position : Nat) : Text → List Token
  | [] => []
  | c :: rest =>
    if isBlank c then tokensFrom (position + 1) rest
    else
      let (l, further) := lexeme c rest
      ⟨l, position⟩ :: tokensFrom (position + 1 + further) (rest.drop further)
termination_by t => t.length
decreasing_by all_goals simp only [List.length_drop, List.length_cons]; omega

/-- The tokens of a text. -/
def tokens (t : Text) : List Token := tokensFrom 0 t

/-! ## Values -/

/-- A list or an object that is open, with what it holds so far, last first. -/
inductive Frame where
  | list (items : List Json)
  /-- `name` is the name that was read last. -/
  | object (members : List (Text × Json)) (name : Text)

/-- What is to come next. -/
inductive Want where
  | value
  /-- Just behind an opening bracket: a value, or the closing bracket. -/
  | firstItem
  /-- Just behind an opening brace: a name, or the closing brace. -/
  | firstName
  | name
  | colon
  /-- Behind a value inside a list or an object: a comma, or its end. -/
  | comma
  /-- Nothing: the document is complete. -/
  | nothing (v : Json)

/-- A document half read: the open lists and objects, innermost first, and what is to come. -/
structure Reading where
  frames : List Frame
  want : Want

namespace Reading

/-- A value is complete. -/
def supply (frames : List Frame) (v : Json) : Reading :=
  match frames with
  | [] => ⟨[], .nothing v⟩
  | .list items :: outer => ⟨.list (v :: items) :: outer, .comma⟩
  | .object members name :: outer => ⟨.object ((name, v) :: members) name :: outer, .comma⟩

/-- What a token can be refused for. -/
abbrev Fault := Trouble × Nat ⊕ Failure

/-- A value begins with a token. At most `depth` lists and objects may be open. -/
def beginValue (depth : Nat) (frames : List Frame) (t : Token) : Except Fault Reading :=
  match t.lexeme with
  | .string s => .ok (supply frames (.text s))
  | .scalar v => .ok (supply frames v)
  | .openBrace =>
    if depth ≤ frames.length then .error (.inr (.tooDeep false))
    else .ok ⟨.object [] [] :: frames, .firstName⟩
  | .openBracket =>
    if depth ≤ frames.length then .error (.inr (.tooDeep true))
    else .ok ⟨.list [] :: frames, .firstItem⟩
  | .brokenString .openString _ => .error (.inl (.openString, t.position))
  | .brokenString trouble offset => .error (.inl (trouble, t.position + 1 + offset))
  | .longInteger digits => .error (.inr (.tooManyDigits digits))
  | _ => .error (.inl (.value, t.position))

/-- A name is read with a token. -/
def beginName (frames : List Frame) (t : Token) : Except Fault Reading :=
  match t.lexeme, frames with
  | .string s, .object members _ :: outer => .ok ⟨.object members s :: outer, .colon⟩
  | .brokenString .openString _, _ => .error (.inl (.openString, t.position))
  | .brokenString trouble offset, _ => .error (.inl (trouble, t.position + 1 + offset))
  | _, _ => .error (.inl (.memberName, t.position))

/-- One more token. -/
def step (depth : Nat) (r : Reading) (t : Token) : Except Fault Reading :=
  match r.want, t.lexeme, r.frames with
  | .firstItem, .closeBracket, .list _ :: outer => .ok (supply outer (.list []))
  | .firstName, .closeBrace, .object _ _ :: outer => .ok (supply outer (.object []))
  | .colon, .colon, frames => .ok ⟨frames, .value⟩
  | .comma, .comma, .list items :: outer => .ok ⟨.list items :: outer, .value⟩
  | .comma, .comma, .object members name :: outer => .ok ⟨.object members name :: outer, .name⟩
  | .comma, .closeBracket, .list items :: outer => .ok (supply outer (.list items.reverse))
  | .comma, .closeBrace, .object members _ :: outer =>
    .ok (supply outer (ofMembers members.reverse))
  | .value, _, frames | .firstItem, _, frames => beginValue depth frames t
  | .name, _, frames | .firstName, _, frames => beginName frames t
  | .colon, _, _ => .error (.inl (.colon, t.position))
  | .comma, _, _ => .error (.inl (.comma, t.position))
  | .nothing _, _, _ => .error (.inl (.extra, t.position))

/-- The document ends here. -/
def finish (r : Reading) (position : Nat) : Except Fault Json :=
  match r.want with
  | .nothing v => .ok v
  | .value | .firstItem => .error (.inl (.value, position))
  | .name | .firstName => .error (.inl (.memberName, position))
  | .colon => .error (.inl (.colon, position))
  | .comma => .error (.inl (.comma, position))

/-- The rest of a document. -/
def run (depth : Nat) (position : Nat) : Reading → List Token → Except Fault Json
  | r, [] => r.finish position
  | r, t :: rest => do run depth position (← step depth r t) rest

end Reading

/-- The value of a document in which at most `depth` lists and objects are open at a time. -/
def read (depth : Nat) (document : Text) : Except Failure Json :=
  let refuse (trouble : Trouble) (position : Nat) : Failure :=
    .refused (Refusal.at document trouble position)
  if document.head?.any (·.val = 0xFEFF) then .error (refuse .byteOrderMark 0)
  else match Reading.run depth document.length ⟨[], .value⟩ (tokens document) with
    | .ok v => .ok v
    | .error (.inl (trouble, position)) => .error (refuse trouble position)
    | .error (.inr failure) => .error failure

end GoLexicon.Json
