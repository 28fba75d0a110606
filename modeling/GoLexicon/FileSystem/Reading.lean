import GoLexicon.FileSystem.Basic
/-!
# Reading files

A reader gives the content of the file that a path leads to, or says why it cannot. Two readers are
given here: a file system, and a table of files that are kept in memory, where any path without an
entry is missing or has the content that all such paths share.
-/

namespace GoLexicon

/-- A way to read files. -/
abbrev FileReader := Path → Except Failure Bytes

/-- The diagnostic on a file that cannot be read. -/
def unreadable (p : Path) (origin : Origin) : Failure :=
  .diagnostic
    ⟨.file .reading (some p.toText), some ("Failed to read file: " ++ p.toText), some origin⟩

/-- The content of the file that a path leads to. -/
def FileSystem.read (fs : FileSystem) : FileReader := fun p =>
  match fs.locate p with
  | .ok (_, some (.file content)) => .ok content
  | .ok (_, some .directory) =>
    .error (unreadable p (Fault.system ⟨.isDirectory, p.toText, none⟩).origin)
  | .ok (_, none) => .error (unreadable p (Fault.system ⟨.missing, p.toText, none⟩).origin)
  | .error (.system e) => .error (unreadable p (Fault.system e).origin)
  | .error fault => .error (.fault fault)

/-- Files in memory. Of two entries for a path the later one counts. -/
structure FileTable where
  files : List (Path × Bytes)
  /-- The content of every path without an entry, if there is one. -/
  fallback : Option Bytes

/-- The content of the file that a path leads to. -/
def FileTable.read (table : FileTable) : FileReader := fun p =>
  match table.files.reverse.lookup p, table.fallback with
  | some content, _ => .ok content
  | none, some content => .ok content
  | none, none => .error (unreadable p ⟨"FileNotFoundError", p.toText⟩)

/-- The content of a file as text; what is no text is replaced. -/
def FileReader.text (read : FileReader) (p : Path) : Except Failure Text :=
  return Text.decodeReplacing (← read p)

end GoLexicon
