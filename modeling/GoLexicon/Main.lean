import GoLexicon.CommandLine.Run
import GoLexicon.FileSystem.Building
import GoLexicon.Go.Source
import GoLexicon.Package.Transcript
/-!
# The program

The program builds a word list for Go as its command line says. No other program is started: the
transcript of the toolchain is read from the standard input, as in

    go list -json std | golexicon --mode verbatim -o go.dic

All files that may count are read beforehand. The run itself is `CommandLine.run`; what it prints,
and the output file, are written afterwards.
-/

namespace GoLexicon.Main

/-- The characters of a text. -/
def characters (t : Text) : String := String.ofList (t.map fun c => Char.ofNat c.val)

/-- The path of a text that comes from the system. -/
def pathOf (s : String) : Path := Path.parse (Text.ofString s)

/-- Does a directory stand where a path leads? -/
def isDirectory (name : String) : IO Bool := do
  match ← (IO.FS.realPath name).toBaseIO with
  | .ok found => found.isDir
  | .error _ => return false

/-- Takes what stands where a path leads into a file system. -/
def takeIn (fs : FileSystem) (p : Path) : IO FileSystem := do
  let location := fs.settledLocation p
  let name := characters ("/" ++ Text.joined "/" location)
  match ← (IO.FS.readBinFile name).toBaseIO with
  | .ok content => return fs.withFile location content.toList
  | .error _ => return if ← isDirectory name then fs.withDirectories location else fs

/-- The paths that may count for a run. -/
def paths (options : CommandLine.Options) (settings : Path) (t : Transcript) : List Path :=
  let named (o : CommandLine.ValueOption) : List Path := ((options.value? o).map Path.parse).toList
  settings :: named .settings ++ (named .output).flatMap (fun p => [p.parent, p]) ++ t.files

/-- Puts a content into a file, by way of another one beside it. -/
def replace (name : String) (content : Bytes) : IO Unit := do
  let temporary := name ++ ".tmp"
  IO.FS.writeBinFile temporary content.toByteArray
  IO.FS.rename temporary name

/-- Writes the output file of a run, if it has one. -/
def deliver (before after : FileSystem) (output : Option Text) : IO Unit := do
  if let some t := output then
    let location := before.settledLocation (Path.parse t)
    if after.entry? location ≠ before.entry? location then
      if let some (.file content) := after.entry? location then
        replace (characters ("/" ++ Text.joined "/" location)) content

/-- Runs a command line, and gives its status. -/
def run (args : List String) : IO UInt32 := do
  let words := args.map Text.ofString
  let options := (CommandLine.Options.ofWords? words).getD .empty
  let input ← (← IO.getStdin).readToEnd
  let transcript := Transcript.parse (Text.ofString input)
  let home := pathOf ((← IO.getEnv "HOME").getD "/")
  let settings := home.join (pathOf ".godict/settings.json")
  let bare := FileSystem.bare (pathOf (← IO.currentDir).toString).names
  let files ← (paths options settings transcript).foldlM takeIn bare
  let outcome := CommandLine.run {
    files := files
    program := transcript.program
    parse := Go.parse
    settings := settings
    binaryVariable := (← IO.getEnv "GODICT_GO").map Text.ofString
    writable := true
    disturbance := Replacement.undisturbed
    output := .utf8 } words
  deliver files outcome.files (options.value? .output)
  (← IO.getStdout).write outcome.printed.toByteArray
  (← IO.getStderr).write (Text.octets outcome.errors).toByteArray
  return UInt32.ofNat outcome.status

end GoLexicon.Main

/-- Builds a word list for Go. -/
def main (args : List String) : IO UInt32 := GoLexicon.Main.run args
