import GoLexicon.Word.Mode
/-!
# Options on the command line

The words of a command line are options, and nothing else. An option is a flag, or takes a value. A
long option begins with two dashes; its value stands behind an equals sign or is the next word,
whatever that word is. Short options are letters behind one dash; of those, the first that takes a
value ends the word, and what is left of the word is its value, or else the next word. Two dashes
alone say that no option follows.

`Given.ofWords?` reads the words, and `Options.ofGiven` keeps the last value of each option.
-/

namespace GoLexicon.CommandLine

/-- An option without a value. -/
inductive Flag where
  | debug | quiet
  deriving DecidableEq

/-- An option with a value. -/
inductive ValueOption where
  | mode | binary | output | settings
  deriving DecidableEq

/-- The options by their long names. -/
def longNames : List (Text × (Flag ⊕ ValueOption)) := [
  ("debug", .inl .debug),
  ("quiet", .inl .quiet),
  ("mode", .inr .mode),
  ("go", .inr .binary),
  ("output", .inr .output),
  ("config", .inr .settings)]

/-- The options by their letters. -/
def letters : List (CodePoint × (Flag ⊕ ValueOption)) := [
  ('d', .inl .debug),
  ('q', .inl .quiet),
  ('o', .inr .output)]

/-- An option as it is given. -/
inductive Given where
  | flag (f : Flag)
  | value (o : ValueOption) (v : Text)
  deriving DecidableEq

/-- What a word of a command line says. -/
inductive Word where
  | options (gs : List Given)
  /-- Some options, and one whose value is the next word. -/
  | awaiting (gs : List Given) (o : ValueOption)
  /-- No option follows. -/
  | ending
  /-- The word is none of these. -/
  | unknown

namespace Word

/-- A word with a flag in front. -/
def after (f : Flag) : Word → Word
  | options gs => options (.flag f :: gs)
  | awaiting gs o => awaiting (.flag f :: gs) o
  | ending => ending
  | unknown => unknown

/-- What the letters behind a dash say. -/
def ofLetters : Text → Word
  | [] => options []
  | letter :: rest =>
    match letters.lookup letter with
    | none => unknown
    | some (.inl f) => (ofLetters rest).after f
    | some (.inr o) => if rest.isEmpty then awaiting [] o else options [.value o rest]

/-- Is a code point an equals sign? -/
def isEqualsSign (c : CodePoint) : Bool := c = '='

/-- What the text behind two dashes says: the name of an option, and perhaps its value. -/
def ofLongName (t : Text) : Word :=
  let name := t.takeWhile (!isEqualsSign ·)
  let value := (t.dropWhile (!isEqualsSign ·)).tail?
  match longNames.lookup name, value with
  | some (.inl f), none => options [.flag f]
  | some (.inr o), none => awaiting [] o
  | some (.inr o), some v => options [.value o v]
  | _, _ => unknown

/-- What a word says. -/
def parse : Text → Word
  | [] | [_] => unknown
  | first :: second :: rest =>
    if first ≠ '-' then unknown
    else if second ≠ '-' then ofLetters (second :: rest)
    else if rest.isEmpty then ending
    else ofLongName rest

end Word

/-- The options that the words of a command line give, in order, if the words are nothing else. -/
def Given.ofWords? : List Text → Option (List Given)
  | [] => some []
  | word :: rest =>
    match Word.parse word with
    | .options gs => (Given.ofWords? rest).map (gs ++ ·)
    | .awaiting gs o =>
      match rest with
      | [] => none
      | v :: rest => (Given.ofWords? rest).map fun later => gs ++ .value o v :: later
    | .ending => if rest.isEmpty then some [] else none
    | .unknown => none

/-- The options of a command line. -/
structure Options where
  flag : Flag → Bool
  /-- The value of each option that has one. -/
  value? : ValueOption → Option Text

namespace Options

/-- No options. -/
def empty : Options := ⟨fun _ => false, fun _ => none⟩

/-- Some options with one more, which counts more than those before it. -/
def add (options : Options) : Given → Options
  | .flag f => { options with flag := fun g => g = f || options.flag g }
  | .value o v => { options with value? := fun p => if p = o then some v else options.value? p }

/-- The options that are given. -/
def ofGiven (gs : List Given) : Options := gs.foldl add empty

/-- The options of a command line, if its words are options. -/
def ofWords? (words : List Text) : Option Options := (Given.ofWords? words).map ofGiven

end Options

/-! ## The names of modes -/

/-- A code point without the difference of capital and small letters, as far as it can stand for
letters in the name of a mode. -/
def folded (c : CodePoint) : Text :=
  if c.val = 0x17F then "s"
  else if c.val = 0xFB05 || c.val = 0xFB06 then "st"
  else [c.toSmall]

/-- The mode of a name in capital or small letters. -/
def modeNamed? (t : Text) : Option Mode := Mode.ofName? (t.flatMap folded)

end GoLexicon.CommandLine
