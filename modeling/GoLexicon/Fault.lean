import GoLexicon.Json.Reader
import GoLexicon.Json.Shown
import GoLexicon.Text.Utf8
/-!
# Faults

What can go wrong outside the rules of the library: the file system or a program refuses, octets are
no text, a document is no JSON, a value is not of the kind that is wanted. Each cause is a
constructor; `Fault.name` and `Fault.message` are the words for it.
-/

namespace GoLexicon

/-- Why the system refuses. -/
inductive SystemError.Reason where
  | missing | notProgram | denied | busy | notDirectory | isDirectory | noSpace | brokenPipe
  | nameTooLong
  deriving DecidableEq

namespace SystemError.Reason

/-- The number of a reason. -/
def code : Reason → Nat
  | missing => 2
  | notProgram => 8
  | denied => 13
  | busy => 16
  | notDirectory => 20
  | isDirectory => 21
  | noSpace => 28
  | brokenPipe => 32
  | nameTooLong => 36

/-- The words for a reason. -/
def words : Reason → Text
  | missing => "No such file or directory"
  | notProgram => "Exec format error"
  | denied => "Permission denied"
  | busy => "Device or resource busy"
  | notDirectory => "Not a directory"
  | isDirectory => "Is a directory"
  | noSpace => "No space left on device"
  | brokenPipe => "Broken pipe"
  | nameTooLong => "File name too long"

end SystemError.Reason

/-- The system refuses an operation on a path, or on a path and a second one. -/
structure SystemError where
  reason : SystemError.Reason
  path : Text
  target : Option Text
  deriving DecidableEq

namespace SystemError

/-- The kind of a refusal with a number; most numbers have no kind of their own. -/
def kindOfCode (code : Int) : Text :=
  if code = 1 || code = 13 then "PermissionError"
  else if code = 2 then "FileNotFoundError"
  else if code = 3 then "ProcessLookupError"
  else if code = 4 then "InterruptedError"
  else if code = 10 then "ChildProcessError"
  else if code = 11 || code = 114 || code = 115 then "BlockingIOError"
  else if code = 17 then "FileExistsError"
  else if code = 20 then "NotADirectoryError"
  else if code = 21 then "IsADirectoryError"
  else if code = 32 || code = 108 then "BrokenPipeError"
  else if code = 103 then "ConnectionAbortedError"
  else if code = 104 then "ConnectionResetError"
  else if code = 110 then "TimeoutError"
  else if code = 111 then "ConnectionRefusedError"
  else "OSError"

/-- The words for a refusal with a number; the paths are shown already. -/
def describe (code reason : Text) (path target : Option Text) : Text :=
  "[Errno " ++ code ++ "] " ++ reason
    ++ (path.map (Text.ofString ": " ++ ·)).getD []
    ++ (target.map (Text.ofString " -> " ++ ·)).getD []

/-- The words for a refusal. -/
def message (e : SystemError) : Text :=
  describe (Text.ofNat e.reason.code) e.reason.words (some e.path.quoted) (e.target.map (·.quoted))

end SystemError

/-- How a program ended without success. -/
inductive CommandEnding where
  | status (code : Nat)
  | signal (number : Nat)
  deriving DecidableEq

namespace CommandEnding

/-- The names of the signals, from number one. -/
def signalNames : List String := [
  "SIGHUP", "SIGINT", "SIGQUIT", "SIGILL", "SIGTRAP", "SIGABRT", "SIGBUS", "SIGFPE", "SIGKILL",
  "SIGUSR1", "SIGSEGV", "SIGUSR2", "SIGPIPE", "SIGALRM", "SIGTERM", "SIGSTKFLT", "SIGCHLD",
  "SIGCONT", "SIGSTOP", "SIGTSTP", "SIGTTIN", "SIGTTOU", "SIGURG", "SIGXCPU", "SIGXFSZ",
  "SIGVTALRM", "SIGPROF", "SIGWINCH", "SIGIO", "SIGPWR", "SIGSYS"]

/-- The number that stands for an ending: that of a signal is negative. -/
def code : CommandEnding → Int
  | status n => n
  | signal n => -n

/-- The words for an ending. -/
def words : CommandEnding → Text
  | status n => "returned non-zero exit status " ++ Text.ofNat n
  | signal n =>
    match if n = 0 then none else signalNames[n - 1]? with
    | some name => "died with <Signals." ++ Text.ofString name ++ ": " ++ Text.ofNat n ++ ">"
    | none => "died with unknown signal " ++ Text.ofNat n

end CommandEnding

/-- A program that was run with some words ended without success. -/
structure CommandFailure where
  command : List Text
  ending : CommandEnding
  deriving DecidableEq

/-- The words for it. -/
def CommandFailure.message (f : CommandFailure) : Text :=
  "Command '[" ++ Text.joined ", " (f.command.map (·.quoted)) ++ "]' " ++ f.ending.words ++ "."

/-- A cause of failure from outside. -/
inductive Fault where
  | system (e : SystemError)
  /-- The system refuses to take more of what is written to a stream, which has no path. -/
  | stream (reason : SystemError.Reason)
  | undecodable (m : Utf8.Malformed)
  | unencodable (u : Utf8.Unencodable)
  | json (f : Json.Failure)
  | command (f : CommandFailure)
  /-- Nothing is stored under a key; the key is shown already. -/
  | missingKey (shownKey : Text)
  /-- A value is not of the kind that is wanted. -/
  | wrongKind (message : Text)
  /-- A value is of the right kind, and not among those that are allowed. -/
  | badValue (message : Text)
  /-- An operation is used where it has no meaning. -/
  | misuse (message : Text)
  deriving DecidableEq

namespace Fault

/-- The name of the kind of a fault. -/
def name : Fault → Text
  | system e => SystemError.kindOfCode e.reason.code
  | stream reason => SystemError.kindOfCode reason.code
  | undecodable _ => "UnicodeDecodeError"
  | unencodable _ => "UnicodeEncodeError"
  | json (.refused _) => "JSONDecodeError"
  | json (.tooDeep _) => "RecursionError"
  | json (.tooManyDigits _) => "ValueError"
  | command _ => "CalledProcessError"
  | missingKey _ => "KeyError"
  | wrongKind _ => "TypeError"
  | badValue _ => "ValueError"
  | misuse _ => "RuntimeError"

/-- The words for a fault. -/
def message : Fault → Text
  | system e => e.message
  | stream reason => SystemError.describe (Text.ofNat reason.code) reason.words none none
  | undecodable m => m.message
  | unencodable u => u.message
  | json (.refused r) => r.message
  | json (.tooDeep inList) =>
    "maximum recursion depth exceeded while decoding a JSON "
      ++ (if inList then Text.ofString "array" else "object") ++ " from a unicode string"
  | json (.tooManyDigits count) =>
    "Exceeds the limit (" ++ Text.ofNat Json.digitLimit
      ++ " digits) for integer string conversion: value has " ++ Text.ofNat count
      ++ " digits; use sys.set_int_max_str_digits() to increase the limit"
  | command f => f.message
  | missingKey shownKey => shownKey
  | wrongKind m => m
  | badValue m => m
  | misuse m => m

end Fault

end GoLexicon
