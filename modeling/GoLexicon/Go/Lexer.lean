import GoLexicon.Go.Token
import GoLexicon.Go.Literal
import GoLexicon.Text.Identifier
/-!
# From octets to tokens

A source is cut into elements: blanks, comments and lexemes, each the longest that stands at its
place (`Element.atFront`). `tokens` keeps the lexemes, with their places and with the note whether a
line ends in front of them. A line end inside a comment between `/*` and `*/` does not count, the
one behind a `//` comment does. The last token is always `Lexeme.ending`.
-/

namespace GoLexicon.Go

/-- What a source is cut into. -/
inductive Element where
  /-- A blank; does it end a line? -/
  | blank (endsLine : Bool)
  | comment
  | lexeme (l : Lexeme)

namespace Element

/-- The blanks of Go source. Those of other scripts are not among them. -/
def isBlank (c : CodePoint) : Bool := (0x09 ≤ c.val && c.val ≤ 0x0D) || c = ' '

/-- How much of a source there is up to and with the end of a comment that has begun with `/*`. -/
def restOfComment : Source → Option Nat
  | .point c :: rest =>
    if c = 0 then none
    else if c = '*' && (Pattern.char '/' rest).isSome then some 2
    else (restOfComment rest).map (· + 1)
  | .flaw _ _ :: rest => (restOfComment rest).map (· + 1)
  | [] => none

/-- A comment: to the end of the line, or up to the next `*/`. -/
def commentPattern : Pattern := Pattern.longest [
  Pattern.andThen (Pattern.text "//") (fun source => some (source.takeWhile fun
    | .point c => c ≠ '\n' && c.val ≠ 0
    | .flaw _ _ => true).length),
  Pattern.andThen (Pattern.text "/*") restOfComment]

/-- A name, or a reserved word. -/
def ofWord (t : Text) : Lexeme :=
  match Keyword.ofText? t with
  | some w => .keyword w
  | none => .name t

/-- The code points of some pieces. -/
def written (source : Source) : Text :=
  source.filterMap fun | .point c => some c | .flaw _ _ => none

/-- The sign at the front of a source, and how much it covers. -/
def sign? (source : Source) : Option (Sign × Nat) :=
  Sign.spellings.findSome? fun (spelling, s) => (Pattern.text spelling source).map (s, ·)

/-- The element that begins with a piece, and how much of the rest belongs to it. -/
def atFront (first : Utf8.Piece) (rest : Source) : Element × Nat :=
  let source := first :: rest
  let covered (p : Pattern) (e : Element) : Option (Element × Nat) := (p source).map (e, · - 1)
  match first with
  | .flaw _ _ => (.lexeme .stray, 0)
  | .point c =>
    if isBlank c then (.blank (c = '\n'), 0)
    else if c.startsName then
      let word := first :: rest.takeWhile fun | .point d => d.continuesName | .flaw _ _ => false
      (.lexeme (ofWord (written word)), word.length - 1)
    else
      (covered commentPattern .comment
        <|> covered Pattern.number (.lexeme .number)
        <|> covered Pattern.rune (.lexeme .rune)
        <|> covered Pattern.string (.lexeme .string)
        <|> (sign? source).map fun (s, n) => (Element.lexeme (.sign s), n - 1)).getD
          (.lexeme .stray, 0)

end Element

namespace Place

/-- The place behind a piece. -/
def after (p : Place) : Utf8.Piece → Place
  | .point c => if c = '\n' then ⟨p.row + 1, 0⟩ else ⟨p.row, p.column + c.octets.length⟩
  | .flaw _ octets => ⟨p.row, p.column + octets.length⟩

end Place

/-- The tokens of a source that begins at a place, behind a line end or not. -/
def tokensFrom (place : Place) (startsLine : Bool) : Source → List Token
  | [] => [⟨.ending, place, startsLine⟩]
  | first :: rest =>
    let (element, further) := Element.atFront first rest
    let place' := (rest.take further).foldl Place.after (place.after first)
    match element with
    | .blank endsLine => tokensFrom place' (startsLine || endsLine) (rest.drop further)
    | .comment => tokensFrom place' startsLine (rest.drop further)
    | .lexeme l => ⟨l, place, startsLine⟩ :: tokensFrom place' false (rest.drop further)
termination_by source => source.length
decreasing_by all_goals simp only [List.length_drop, List.length_cons]; omega

/-- The tokens of a source given as octets. A byte-order mark in front of everything is no token. -/
def tokens (source : Bytes) : List Token :=
  match Utf8.pieces source with
  | .point c :: rest =>
    if c.val = 0xFEFF then tokensFrom ⟨0, c.octets.length⟩ false rest
    else tokensFrom ⟨0, 0⟩ false (.point c :: rest)
  | pieces => tokensFrom ⟨0, 0⟩ false pieces

end GoLexicon.Go
