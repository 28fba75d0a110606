import GoLexicon.CommandLine.Request
import GoLexicon.Notice
import GoLexicon.Progress.Display
import GoLexicon.Scan.Extraction
import GoLexicon.Scan.Run
import GoLexicon.Scan.Trace
import GoLexicon.Word.Report
/-!
# Runs

A run carries out the request of a command line: it loads the settings, scans the library of the
toolchain, and delivers the word list, to the output file if there is one, or else by printing it.
It ends with status 0 if all of this is done, and with status 1 if anything fails, after a notice; a
command line that makes no request ends with status 2.

What is told on the way (debug output, the trail of the display, the notice) goes to the error
output only.
-/

namespace GoLexicon.CommandLine

/-- What a run comes to. -/
structure Outcome where
  /-- The status that the run asks to end with. -/
  status : Nat
  /-- What goes to the standard output. -/
  printed : Bytes
  /-- What goes to the error output. -/
  errors : Text
  files : FileSystem
  /-- A fault that the run has no notice for. -/
  escaped : Option Fault

namespace Outcome

/-- A run that has done nothing. -/
def ofRefusal (m : Machine) : Refusal → Outcome
  | .usage => ⟨2, [], [], m.files, none⟩
  | .fault f => ⟨1, [], [], m.files, some f⟩

/-- A run without usable settings. -/
def ofSettingsFailure (m : Machine) : Failure → Outcome
  | .diagnostic d => ⟨1, [], (Notice.ofSettings d).printed, m.files, none⟩
  | .fault f => ⟨1, [], [], m.files, some f⟩

end Outcome

/-! ## The scan -/

namespace Plan

/-- The catalog of a plan. -/
def catalog (p : Plan) (m : Machine) : Catalog :=
  (Toolchain.mk p.binary m.program).toClient.toCatalog

/-- The scan of a plan. -/
def scan (p : Plan) (m : Machine) : Scan.Outcome :=
  Scan.run (Guide.of (p.catalog m) (Extractor.of m.files.read m.parse)) p.mode p.extraWords

end Plan

/-- The result of a scan, where a display follows it. -/
def followed (s : Scan.Outcome) : Except Failure WordSet :=
  match Progress.Display.fresh.follow s.trace with
  | .ok _ => s.result
  | .error fault => .error (.fault fault)

/-! ## The delivery -/

/-- What becomes of a word list. -/
structure Delivery where
  printed : Bytes
  files : FileSystem
  result : Except Failure Unit

/-- A word list is printed, as far as the standard output takes it. -/
def print (m : Machine) (words : WordSet) : Delivery :=
  match words.report with
  | .error fault => ⟨[], m.files, .error (.fault fault)⟩
  | .ok (_, text) =>
    let written := m.output.write text
    ⟨written.taken, m.files, written.result.mapError .fault⟩

/-- A word list is written to a file. -/
def write (m : Machine) (path : Path) (words : WordSet) : Delivery :=
  match m.files.checkDestination m.writable path with
  | .error failure => ⟨[], m.files, .error failure⟩
  | .ok () =>
    match words.report with
    | .error fault => ⟨[], m.files, .error (.fault fault)⟩
    | .ok (_, text) =>
      let replacement := Replacement.run m.disturbance m.files path text
      ⟨[], replacement.final m.files, replacement.outcome⟩

/-- A word list is delivered. -/
def deliver (m : Machine) (output : Option Path) (words : WordSet) : Delivery :=
  match output with
  | none => print m words
  | some path => write m path words

/-! ## The run -/

/-- Does a display follow the scan? Debug output would tear it apart. -/
def Request.isDisplayed (r : Request) : Bool := !(r.quiet || r.debug)

/-- What is told up to the end of the scan. -/
def Request.tellScan (r : Request) (p : Plan) (s : Scan.Outcome) : Text :=
  Console.debugLine r.debug p.shown ++ (if r.isDisplayed then Progress.trail else [])
    ++ Console.debugTrace r.debug s.trace

/-- What is told of the words that a scan has found. -/
def Request.tellWords (r : Request) (words : WordSet) : Text :=
  Console.debugLine r.debug (Text.ofNat words.size ++ " distinct words")

/-- What is told of a failure. -/
def tellResult : Except Failure Unit → Text
  | .ok () => []
  | .error failure => (Notice.ofFailure failure).printed

/-- The status of a result. -/
def statusOf : Except Failure Unit → Nat
  | .ok () => 0
  | .error _ => 1

/-- Carries out a plan. -/
def Plan.carryOut (p : Plan) (r : Request) (m : Machine) : Outcome :=
  let scan := p.scan m
  let told := r.tellScan p scan
  match if r.isDisplayed then followed scan else scan.result with
  | .error failure => ⟨1, [], told ++ tellResult (.error failure), m.files, none⟩
  | .ok words =>
    let delivery := deliver m p.output words
    ⟨statusOf delivery.result, delivery.printed,
      told ++ r.tellWords words ++ tellResult delivery.result, delivery.files, none⟩

/-- Carries out a request. -/
def Request.carryOut (r : Request) (m : Machine) : Outcome :=
  match Settings.load m.files m.files.read (r.settings.getD m.settings) with
  | .error failure => .ofSettingsFailure m failure
  | .ok settings => (Plan.of r settings).carryOut r m

/-- What a command line does on a machine. -/
def run (m : Machine) (words : List Text) : Outcome :=
  match Request.ofWords m words with
  | .error refusal => .ofRefusal m refusal
  | .ok request => request.carryOut m

end GoLexicon.CommandLine
