import GoLexicon.CommandLine.Options
import GoLexicon.CommandLine.StandardOutput
import GoLexicon.FileSystem.Replacement
import GoLexicon.Package.Toolchain
import GoLexicon.Settings
import GoLexicon.Syntax.Node
/-!
# Requests

A request is a command line whose words have been read and whose values are fit: the mode is one of
the two, the settings file is there, and neither it nor the output file is a directory. Paths are
settled against the current directory.

A request and the settings make a `Plan`: an option counts more than the settings, and a program
that is named by no option may be named by the environment.
-/

namespace GoLexicon.CommandLine

/-- What a run finds where it takes place. -/
structure Machine where
  files : FileSystem
  program : Program
  /-- The parser for source files. -/
  parse : Bytes → Syntax.Node
  /-- The settings file that is used unless another one is named. -/
  settings : Path
  /-- The value of the variable that can name the program of the toolchain. -/
  binaryVariable : Option Text
  /-- Can files be created in the directory of the output file? -/
  writable : Bool
  /-- What befalls the operations that replace the output file. -/
  disturbance : Replacement.Disturbance
  /-- What a word list is printed to. -/
  output : StandardOutput

/-- A request. -/
structure Request where
  debug : Bool
  quiet : Bool
  mode : Option Mode
  binary : Option Text
  output : Option Path
  settings : Option Path

/-- Why a command line makes no request. -/
inductive Refusal where
  /-- It is not used as it should be. -/
  | usage
  | fault (f : Fault)
  deriving DecidableEq

/-- The path that a text means, from the root. -/
def settledPath (fs : FileSystem) (t : Text) : Path :=
  { Path.absolute fs.herePath (Path.parse t) with anchor := .root }

/-- The mode of a name. -/
def requestedMode (t : Text) : Except Refusal Mode :=
  match modeNamed? t with
  | some mode => .ok mode
  | none => .error .usage

/-- What stands where a text leads, if it leads anywhere; the path of the text. -/
def standing (fs : FileSystem) (t : Text) : Except Refusal (Path × Option Entry) :=
  match FileSystem.textFault? t with
  | some fault => .error (.fault fault)
  | none =>
    match fs.locate (settledPath fs t) with
    | .ok (_, entry) => .ok (settledPath fs t, entry)
    | .error _ => .ok (settledPath fs t, none)

/-- The path of a settings file, which must be there. -/
def requestedSettings (fs : FileSystem) (t : Text) : Except Refusal Path := do
  match ← standing fs t with
  | (path, some (.file _)) => return path
  | _ => throw .usage

/-- The path of an output file, which must not be a directory. -/
def requestedOutput (fs : FileSystem) (t : Text) : Except Refusal Path := do
  match ← standing fs t with
  | (_, some .directory) => throw .usage
  | (path, _) => return path

/-- The request that some options make. An empty variable counts as none. -/
def Request.ofOptions (m : Machine) (options : Options) : Except Refusal Request := do
  let mode ← (options.value? .mode).mapM requestedMode
  let output ← (options.value? .output).mapM (requestedOutput m.files)
  let settings ← (options.value? .settings).mapM (requestedSettings m.files)
  return {
    debug := options.flag .debug
    quiet := options.flag .quiet
    mode := mode
    binary := options.value? .binary <|> m.binaryVariable.filter (· ≠ [])
    output := output
    settings := settings }

/-- The request that the words of a command line make. -/
def Request.ofWords (m : Machine) (words : List Text) : Except Refusal Request :=
  match Options.ofWords? words with
  | some options => Request.ofOptions m options
  | none => .error .usage

/-! ## Plans -/

/-- What a run is to do. -/
structure Plan where
  mode : Mode
  /-- The program of the toolchain. -/
  binary : Text
  extraWords : List Text
  /-- The file that the word list is written to, if it is not printed. -/
  output : Option Path

namespace Plan

/-- The plan that a request makes with some settings. An empty name of a program counts as none. -/
def of (r : Request) (s : Settings) : Plan where
  mode := r.mode.getD s.mode
  binary := (r.binary.filter (· ≠ [])).getD s.binary
  extraWords := s.extraWords
  output := r.output

/-- A plan as debug output shows it. -/
def shown (p : Plan) : Text :=
  "mode=" ++ p.mode.name ++ " go=" ++ p.binary.quoted
    ++ " extra_words=" ++ Text.ofNat p.extraWords.length

end Plan

end GoLexicon.CommandLine
