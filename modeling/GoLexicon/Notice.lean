import GoLexicon.Console.Printed
import GoLexicon.Diagnostic
/-!
# Notices

A notice tells the user why a run has failed, and what may help. It is a list of lines; those that
hold text from outside are shown as they are, or have that text escaped, so that no such text is
ever taken for markup.
-/

namespace GoLexicon

/-- A line of a notice. -/
inductive Notice.Line where
  /-- A line with markup. -/
  | marked (t : Text)
  /-- A line that is shown as it is. -/
  | verbatim (t : Text)

/-- What a console prints of a line. -/
def Notice.Line.printed : Line → Text
  | marked t => Console.markupLine t
  | verbatim t => Console.line t

/-- A notice. -/
abbrev Notice := List Notice.Line

namespace Notice

/-- What a console prints of a notice. -/
def printed (n : Notice) : Text := n.flatMap (·.printed)

/-- The line above a notice. -/
def heading (title : Text) : Line := .marked ("❌ [bold red]" ++ title ++ "[/bold red]")

/-- A line for something that may be unknown; there is none if nothing is known. -/
def place (label : Text) (what : Option Text) : Notice :=
  match what with
  | some (c :: rest) =>
    [.marked (label ++ ": [yellow]" ++ Markup.escape (c :: rest) ++ "[/yellow]")]
  | _ => []

/-- A line for the failure behind a diagnostic, if there is one. -/
def technical (d : Diagnostic) : Notice :=
  match d.origin with
  | some origin => [.verbatim ("\nTechnical details: " ++ origin.details)]
  | none => []

/-- What may help. -/
def advice (label text : Text) : Line := .marked ("\n[yellow]" ++ label ++ ":[/yellow] " ++ text)

/-- The notice on a settings file that cannot be used. -/
def ofSettings (d : Diagnostic) : Notice :=
  [heading "Settings Error", .verbatim d.message] ++ technical d
    ++ [advice "Quick Fix" "Fix or remove the settings file, or pass --config."]

/-- The notice on packages that cannot be resolved. -/
def ofResolution (d : Diagnostic) (importPath : Option Text) : Notice :=
  [heading "Package Resolution Error", .verbatim d.message] ++ place "Package" importPath
    ++ [advice "Quick Fix" ("Ensure a Go toolchain is installed and "
      ++ Text.ofString "`go list std` works, or point --go at one.")]

/-- The notice on a source file that cannot be scanned. -/
def ofSource (title : Text) (d : Diagnostic) (filePath : Option Text) : Notice :=
  [heading title, .verbatim d.message] ++ place "File path" filePath
    ++ [advice "Note" ("Standard library sources are expected to parse "
      ++ Text.ofString "cleanly. Your Go version may be newer than the bundled grammar.")]

/-- The notice on a file that cannot be read or written. -/
def ofFile (d : Diagnostic) (filePath : Option Text) : Notice :=
  [heading "File I/O Error",
    .verbatim ("The app encountered an error while working with files: " ++ d.message)]
    ++ place "File path" filePath
    ++ [advice "Quick Fix" "Check file permissions and available disk space."] ++ technical d

/-- The notice on a failure of an unexpected kind, with the words for what lies behind it. -/
def ofUnexpected (name message : Text) (cause : Option Text) : Notice :=
  [heading "Unexpected Error",
    .marked "An unexpected error occurred while building the dictionary.",
    .marked ("\n[yellow]Error Type:[/yellow] " ++ name),
    .marked ("[yellow]Error Message:[/yellow] " ++ Markup.escape message),
    .marked "\n--- PLEASE REPORT THIS ---",
    .marked ("Error Type: " ++ name),
    .verbatim ("Error Message: " ++ message)]
    ++ (match cause with
      | some words => [.verbatim ("Caused by: " ++ words)]
      | none => [])

/-- The notice on a diagnostic, by its subject. -/
def ofDiagnostic (d : Diagnostic) : Notice :=
  match d.subject with
  | .general => ofUnexpected d.name d.message none
  | .resolution importPath => ofResolution d importPath
  | .parsing filePath _ _ => ofSource "Parse Error" d filePath
  | .construct _ filePath => ofSource "Unsupported Construct" d filePath
  | .settings _ => ofSettings d
  | .file _ filePath => ofFile d filePath

/-- The notice on a failure. -/
def ofFailure : Failure → Notice
  | .diagnostic d => ofDiagnostic d
  | .fault f => ofUnexpected f.name f.message none

end Notice

end GoLexicon
