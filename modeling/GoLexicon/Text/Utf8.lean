import GoLexicon.Text.Basic
/-!
# UTF-8

A code point is written as one to four octets (`CodePoint.octets`). Reading goes octet by octet with
at most one sequence open (`Pending`), and cuts any octets into pieces: a code point, or a flaw that
covers the longest run of octets that begins a sequence but does not complete it.

Two readers share the pieces: `Text.decode` refuses the first flaw and says where it is,
`Text.decodeReplacing` puts one U+FFFD for each flaw.
-/

namespace GoLexicon

/-- The octets of a code point. A lone surrogate gets three octets that no reader accepts. -/
def CodePoint.octets (c : CodePoint) : Bytes :=
  let n := c.val
  if n < 0x80 then [n.toUInt8]
  else if n < 0x800 then [(0xC0 + n / 0x40).toUInt8, (0x80 + n % 0x40).toUInt8]
  else if n < 0x10000 then
    [(0xE0 + n / 0x1000).toUInt8, (0x80 + n / 0x40 % 0x40).toUInt8, (0x80 + n % 0x40).toUInt8]
  else
    [(0xF0 + n / 0x40000).toUInt8, (0x80 + n / 0x1000 % 0x40).toUInt8,
      (0x80 + n / 0x40 % 0x40).toUInt8, (0x80 + n % 0x40).toUInt8]

/-- Stands where octets write no code point. -/
def CodePoint.replacement : CodePoint := .ofNat 0xFFFD

namespace Utf8

/-- What is wrong with a run of octets. -/
inductive Flaw where
  /-- No sequence begins with this octet. -/
  | start
  /-- The sequence is broken off by an octet that cannot come next. -/
  | continuation
  /-- The input ends inside the sequence. -/
  | ending
  deriving DecidableEq

/-- The words for a flaw. -/
def Flaw.reason : Flaw → Text
  | start => "invalid start byte"
  | continuation => "invalid continuation byte"
  | ending => "unexpected end of data"

/-- A sequence that has begun and wants more octets. -/
structure Pending where
  /-- The octets read so far. -/
  octets : Bytes
  /-- The value of their payload bits. -/
  value : Nat
  /-- How many octets are wanted after the next one. -/
  after : Nat
  /-- The least octet that may come next. -/
  low : Nat
  /-- The greatest octet that may come next. -/
  high : Nat

/-- May this octet come next? -/
def Pending.admits (p : Pending) (b : UInt8) : Bool := p.low ≤ b.toNat && b.toNat ≤ p.high

/-- A piece of the input. -/
inductive Piece where
  | point (c : CodePoint)
  | flaw (why : Flaw) (octets : Bytes)

/-- What an octet begins where no sequence is open. -/
inductive Lead where
  | point (c : CodePoint)
  | sequence (p : Pending)
  | none

/-- The first continuation octet is restricted where the sequence could otherwise be written
shorter, be a surrogate, or lie above the last code point. -/
def lead (b : UInt8) : Lead :=
  let n := b.toNat
  if n < 0x80 then .point (CodePoint.ofNat n)
  else if n < 0xC2 then .none
  else if n < 0xE0 then .sequence ⟨[b], n - 0xC0, 0, 0x80, 0xBF⟩
  else if n < 0xF0 then
    .sequence ⟨[b], n - 0xE0, 1, if n = 0xE0 then 0xA0 else 0x80, if n = 0xED then 0x9F else 0xBF⟩
  else if n < 0xF5 then
    .sequence ⟨[b], n - 0xF0, 2, if n = 0xF0 then 0x90 else 0x80, if n = 0xF4 then 0x8F else 0xBF⟩
  else .none

/-- What an octet completes, and the sequence that is open after it, where none is open before. -/
def begin (b : UInt8) : List Piece × Option Pending :=
  match lead b with
  | .point c => ([.point c], none)
  | .sequence p => ([], some p)
  | .none => ([.flaw .start [b]], none)

/-- What an octet completes, and the sequence that is open after it. -/
def step : Option Pending → UInt8 → List Piece × Option Pending
  | none, b => begin b
  | some p, b =>
    if p.admits b then
      let value := p.value * 0x40 + (b.toNat - 0x80)
      match p.after with
      | 0 => ([.point (CodePoint.ofNat value)], none)
      | after + 1 => ([], some ⟨p.octets ++ [b], value, after, 0x80, 0xBF⟩)
    else (.flaw .continuation p.octets :: (begin b).1, (begin b).2)

/-- The pieces of some octets, behind the sequence that is open in front of them, if any. -/
def piecesFrom : Option Pending → Bytes → List Piece
  | none, [] => []
  | some p, [] => [.flaw .ending p.octets]
  | p, b :: rest => (step p b).1 ++ piecesFrom (step p b).2 rest

/-- The pieces of some octets. -/
def pieces (bytes : Bytes) : List Piece := piecesFrom none bytes

/-- A refusal to decode: what is wrong, with which octets, and how many octets stand before them. -/
structure Malformed where
  why : Flaw
  octets : Bytes
  position : Nat
  deriving DecidableEq

/-- The words for a refusal. -/
def Malformed.message (m : Malformed) : Text :=
  match m.octets with
  | [b] =>
    "'utf-8' codec can't decode byte 0x" ++ Text.hex 2 b.toNat ++ " in position "
      ++ Text.ofNat m.position ++ ": " ++ m.why.reason
  | octets =>
    "'utf-8' codec can't decode bytes in position " ++ Text.ofNat m.position ++ "-"
      ++ Text.ofNat (m.position + octets.length - 1) ++ ": " ++ m.why.reason

/-- A refusal to encode: a run of lone surrogates, and how many code points stand before it. -/
structure Unencodable where
  surrogates : Text
  position : Nat
  deriving DecidableEq

/-- The words for a refusal. -/
def Unencodable.message (u : Unencodable) : Text :=
  match u.surrogates with
  | [c] =>
    "'utf-8' codec can't encode character '\\u" ++ Text.hex 4 c.val ++ "' in position "
      ++ Text.ofNat u.position ++ ": surrogates not allowed"
  | run =>
    "'utf-8' codec can't encode characters in position " ++ Text.ofNat u.position ++ "-"
      ++ Text.ofNat (u.position + run.length - 1) ++ ": surrogates not allowed"

end Utf8

namespace Text

/-- The octets of all code points, in order. -/
def octets (t : Text) : Bytes := t.flatMap CodePoint.octets

/-- The octets of a text, if it has no lone surrogate. -/
def encode (t : Text) : Except Utf8.Unencodable Bytes :=
  match t.dropWhile (!·.isSurrogate) with
  | [] => .ok t.octets
  | bad => .error ⟨bad.takeWhile (·.isSurrogate), t.length - bad.length⟩

/-- The text of some pieces, with `position` octets in front of them. -/
def ofPieces (position : Nat) : List Utf8.Piece → Except Utf8.Malformed Text
  | [] => .ok []
  | .point c :: rest => do
    let t ← ofPieces (position + c.octets.length) rest
    return c :: t
  | .flaw why octets :: _ => .error ⟨why, octets, position⟩

/-- The text that the octets write, or the first flaw. -/
def decode (bytes : Bytes) : Except Utf8.Malformed Text := ofPieces 0 (Utf8.pieces bytes)

/-- The text that the octets write, with one `CodePoint.replacement` for each flaw. -/
def decodeReplacing (bytes : Bytes) : Text :=
  (Utf8.pieces bytes).map fun
    | .point c => c
    | .flaw _ _ => .replacement

end Text

end GoLexicon
