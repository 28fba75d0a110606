import GoLexicon.Package.Static
import GoLexicon.Package.Toolchain
import GoLexicon.Proofs.Syntax.Harvest
import GoLexicon.Scan.Extraction
/-!
# What diagnostics are about

Whatever the catalogs and the extractor of the library refuse with a diagnostic, the diagnostic is
about the question: that on a listing is about no import path, that on an import path is about it,
and that on a file is about the path of the file.

Faults are no diagnostics. A question is answered (`IsAnswered`) where none of them comes of it:
there is what was asked for, or a diagnostic about the question.
-/

namespace GoLexicon

/-- The file that a subject is about, if it is about one. -/
def Subject.filePath? : Subject → Option Text
  | parsing filePath _ _ => filePath
  | construct _ filePath => filePath
  | file _ filePath => filePath
  | _ => none

/-- All diagnostics with which something may fail are about subjects of a kind. -/
def Blames {α : Type} (P : Subject → Prop) (x : Except Failure α) : Prop :=
  ∀ d, x = .error (.diagnostic d) → P d.subject

namespace Blames

variable {α β : Type} {P : Subject → Prop} {x : Except Failure α} {g : α → Except Failure β}

theorem ok (a : α) : Blames P (.ok a) := nofun

theorem fault (f : Fault) : Blames P (.error (.fault f) : Except Failure α) := nofun

theorem diagnostic {d : Diagnostic} (h : P d.subject) :
    Blames P (.error (.diagnostic d) : Except Failure α) := by
  rintro _ ⟨⟩
  exact h

theorem bind (hx : Blames P x) (hg : ∀ a, Blames P (g a)) : Blames P (x >>= g) := by
  intro d h
  obtain h | ⟨a, -, h⟩ := Except.bind_eq_error_iff.1 h
  · exact hx d h
  · exact hg a d h

end Blames

/-- What is asked for is there, or a diagnostic on a subject says why it is not. -/
def IsAnswered {α : Type} (subject : Subject) (x : Except Failure α) : Prop :=
  (∃ a, x = .ok a) ∨ ∃ d, x = .error (.diagnostic d) ∧ d.subject = subject

namespace IsAnswered

variable {α β : Type} {subject : Subject} {x : Except Failure α} {g : α → Except Failure β}

theorem ok (a : α) : IsAnswered subject (.ok a) := .inl ⟨a, rfl⟩

theorem diagnostic (note : Option Text) (origin : Option Origin) :
    IsAnswered subject (.error (.diagnostic ⟨subject, note, origin⟩) : Except Failure α) :=
  .inr ⟨_, rfl, rfl⟩

theorem not_fault (f : Fault) : ¬ IsAnswered subject (.error (.fault f) : Except Failure α) := by
  rintro (⟨_, ⟨⟩⟩ | ⟨_, ⟨⟩, _⟩)

theorem bind_iff : IsAnswered subject (x >>= g) ↔
    IsAnswered subject x ∧ ∀ a, x = .ok a → IsAnswered subject (g a) := by
  cases x with
  | ok a =>
    refine ⟨fun h => ⟨.ok a, ?_⟩, fun h => h.2 a rfl⟩
    rintro _ ⟨⟩
    exact h
  | error failure =>
    refine ⟨fun h => ⟨?_, nofun⟩, fun h => ?_⟩
    · obtain ⟨_, ⟨⟩⟩ | ⟨d, ⟨⟩, hd⟩ := h
      exact .inr ⟨d, rfl, hd⟩
    · obtain ⟨_, ⟨⟩⟩ | ⟨d, ⟨⟩, hd⟩ := h.1
      exact .inr ⟨d, rfl, hd⟩

end IsAnswered

/-! ## Catalogs -/

theorem StaticCatalog.blames_resolve (c : StaticCatalog) (importPath : Text) :
    Blames (· = .resolution (some importPath)) (c.toCatalog.resolve importPath) := by
  change Blames _ (c.resolve importPath)
  unfold StaticCatalog.resolve
  split
  · exact .ok _
  · exact .diagnostic rfl

namespace Toolchain

variable (t : Toolchain) (importPath : Option Text)

theorem blames_cannotRun {α : Type} (binary : Text) (reason : SystemError.Reason) :
    Blames (· = .resolution importPath)
      (.error (cannotRun binary importPath reason) : Except Failure α) := by
  cases reason <;> exact .diagnostic rfl

theorem blames_printed (output : Bytes) : Blames (· = .resolution importPath) (printed output) := by
  unfold printed
  split
  · exact .ok _
  · exact .fault _

theorem blames_run (words : List Text) :
    Blames (· = .resolution importPath) (t.run words importPath) := by
  unfold run
  split
  · exact .fault _
  · split
    · exact blames_cannotRun _ _ _
    · refine .bind (blames_printed _ _) fun _ => .bind (blames_printed _ _) fun _ => ?_
      split
      · exact .ok _
      · exact .diagnostic rfl

theorem blames_listStandard : Blames (· = .resolution none) t.listStandard :=
  .bind (t.blames_run none _) fun _ => .ok _

theorem blames_packageInfo (importPath : Text) :
    Blames (· = .resolution (some importPath)) (t.packageInfo importPath) := by
  refine .bind (t.blames_run _ _) fun _ => ?_
  split
  · exact .ok _
  · exact .diagnostic rfl
  · exact .diagnostic rfl
  · exact .fault _

end Toolchain

namespace Package

variable {P : Subject → Prop}

theorem blames_directoryOf (v : Json) : Blames P (directoryOf v) := by
  unfold directoryOf
  split
  · exact .ok _
  · exact .fault _

theorem blames_fileNamesOf (v : Json) : Blames P (fileNamesOf v) := by
  unfold fileNamesOf
  split
  · exact .ok _
  · exact .ok _
  · exact .ok _
  · exact .fault _

theorem blames_ofInfo (importPath : Text) (info : List (Text × Json)) :
    Blames (· = .resolution (some importPath)) (ofInfo importPath info) := by
  unfold ofInfo
  split
  · refine .bind (blames_directoryOf _) fun _ => ?_
    split
    · exact .bind (blames_fileNamesOf _) fun _ => .ok _
    · exact .ok _
  · exact .diagnostic rfl

end Package

theorem Toolchain.blames_resolve (t : Toolchain) (importPath : Text) :
    Blames (· = .resolution (some importPath)) (t.toClient.toCatalog.resolve importPath) :=
  .bind (t.blames_packageInfo importPath) fun _ => Package.blames_ofInfo importPath _

/-! ## Files -/

theorem FileSystem.blames_read (fs : FileSystem) (p : Path) :
    Blames (·.filePath? = some p.toText) (fs.read p) := by
  unfold read
  split
  · exact .ok _
  · exact .diagnostic rfl
  · exact .diagnostic rfl
  · exact .diagnostic rfl
  · exact .fault _

theorem FileTable.blames_read (table : FileTable) (p : Path) :
    Blames (·.filePath? = some p.toText) (table.read p) := by
  unfold read
  split
  · exact .ok _
  · exact .ok _
  · exact .diagnostic rfl

namespace Syntax.Node

variable {origin : Text} {n : Node}

theorem Offends.filePath {d : Diagnostic} (h : n.Offends origin (.diagnostic d)) :
    d.subject.filePath? = some origin := by
  cases h <;> rfl

theorem blames_exportedBy (origin : Text) (n : Node) :
    Blames (·.filePath? = some origin) (n.exportedBy origin) :=
  fun _ h => (exportedBy_eq_error h).filePath

theorem blames_exportedNames (origin : Text) (root : Node) :
    Blames (·.filePath? = some origin) (root.exportedNames origin) := by
  unfold exportedNames
  split
  · exact .diagnostic rfl
  · refine .bind (fun d h => ?_) fun _ => .ok _
    obtain ⟨-, n, -, -, -, hn⟩ := Except.mapM_eq_error_iff.1 h
    exact blames_exportedBy origin n d hn

end Syntax.Node

theorem Extractor.blames_of {read : FileReader} {path : Path}
    (h : Blames (·.filePath? = some path.toText) (read path)) (parse : Bytes → Syntax.Node) :
    Blames (·.filePath? = some path.toText) (Extractor.of read parse path) :=
  .bind h fun _ => Syntax.Node.blames_exportedNames _ _

end GoLexicon
