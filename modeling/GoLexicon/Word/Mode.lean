import GoLexicon.Text.Basic
/-!
# Words

A token becomes words in one of two modes. The strict mode keeps the letters in front of the token
and makes them small, the verbatim mode keeps the token. No word is empty, so a token gives one word
or none.
-/

namespace GoLexicon

/-- How tokens become words. -/
inductive Mode where
  | strict | verbatim
  deriving DecidableEq, Repr

namespace Mode

/-- The name of a mode. -/
def name : Mode → Text
  | strict => "strict"
  | verbatim => "verbatim"

/-- The mode of a name. -/
def ofName? (t : Text) : Option Mode :=
  if t = strict.name then some strict else if t = verbatim.name then some verbatim else none

/-- What a mode keeps of a token, perhaps nothing. -/
def kept : Mode → Text → Text
  | strict, token => (token.takeWhile (·.isLetter)).map CodePoint.toSmall
  | verbatim, token => token

/-- The words of a token. -/
def words (mode : Mode) (token : Text) : List Text :=
  match mode.kept token with
  | [] => []
  | c :: rest => [c :: rest]

/-- The words of some tokens, in order. -/
def wordsOfAll (mode : Mode) (tokens : List Text) : List Text := tokens.flatMap mode.words

end Mode

end GoLexicon
