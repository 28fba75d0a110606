import GoLexicon.Proofs.Scan.Blame
import GoLexicon.Proofs.Scan.Library
/-!
# The failure of a scan

A scan that fails does so with the first failure that it is answered, whatever would fail later, and
that answer is the last one (`run_fails_at_first_failure`). What it has asked before was asked in
the order of the list, each import path and each file as often as it is listed; for a catalog and an
extractor with fixed answers this order is `Catalog.steps`.

If the answer is one of the catalogs or of the extractor of the library, a diagnostic is about the
question (`Exchange.isBlamed_of_isOwn`).
-/

namespace GoLexicon

namespace Exchange

/-- The answer comes from a catalog or from the extractor of the library, and not from what they
have been given to ask. -/
def IsOwn : Exchange → Prop
  | .listing answer =>
    (∃ t : Toolchain, answer = t.toClient.toCatalog.list) ∨
      ∃ c : StaticCatalog, answer = c.toCatalog.list
  | .resolving importPath answer =>
    (∃ client : PackageClient, answer = client.toCatalog.resolve importPath ∧
      ((∃ info, client.packageInfo importPath = .ok info) ∨ ∃ t : Toolchain, client = t.toClient)) ∨
      ∃ c : StaticCatalog, answer = c.toCatalog.resolve importPath
  | .extracting path answer =>
    ∃ (read : FileReader) (parse : Bytes → Syntax.Node), answer = Extractor.of read parse path ∧
      ((∃ source, read path = .ok source) ∨ (∃ fs : FileSystem, read = fs.read) ∨
        ∃ table : FileTable, read = table.read)

/-- A diagnostic is about a question. -/
def IsBlamed (d : Diagnostic) : Exchange → Prop
  | .listing _ => d.subject = .resolution none
  | .resolving importPath _ => d.subject = .resolution (some importPath)
  | .extracting path _ => d.subject.filePath? = some path.toText

theorem eq_error_of_failure? {α : Type} {x : Except Failure α} {f : Failure}
    (h : Scan.failure? x = some f) : x = .error f := by
  cases x with
  | ok a => cases h
  | error g => exact congrArg _ (Option.some.inj h)

theorem isBlamed_of_isOwn {x : Exchange} {d : Diagnostic} (own : x.IsOwn)
    (h : x.failure? = some (.diagnostic d)) : x.IsBlamed d := by
  cases x with
  | listing answer =>
    have refused := eq_error_of_failure? h
    obtain ⟨t, rfl⟩ | ⟨c, rfl⟩ := own
    · exact t.blames_listStandard d refused
    · cases refused
  | resolving importPath answer =>
    have refused := eq_error_of_failure? h
    obtain ⟨client, rfl, ⟨info, given⟩ | ⟨t, rfl⟩⟩ | ⟨c, rfl⟩ := own
    · have resolve : client.toCatalog.resolve importPath =
          client.packageInfo importPath >>= Package.ofInfo importPath := rfl
      rw [resolve, given] at refused
      exact Package.blames_ofInfo importPath info d refused
    · exact t.blames_resolve importPath d refused
    · exact c.blames_resolve importPath d refused
  | extracting path answer =>
    have refused := eq_error_of_failure? h
    obtain ⟨read, parse, rfl, hread⟩ := own
    have blames : Blames (·.filePath? = some path.toText) (read path) := by
      obtain ⟨source, given⟩ | ⟨fs, rfl⟩ | ⟨table, rfl⟩ := hread
      · exact given ▸ .ok _
      · exact fs.blames_read path
      · exact table.blames_read path
    exact Extractor.blames_of blames parse d refused

end Exchange

namespace Package

/-- The name of a package is a text, and so are the names of its files. -/
def IsTextual (p : Package) : Prop := p.IsNamed ∧ ∀ v ∈ p.files, ∃ t : Text, v = .text t

/-- A package that is given cannot be used: its name has no words, or a file has no path. -/
def IsUnusable (p : Package) (f : Failure) : Prop :=
  ∃ fault, f = .fault fault ∧ (¬ p.IsNamed ∨ p.filePaths = .error fault)

theorem not_isUnusable {p : Package} {f : Failure} (textual : p.IsTextual) : ¬ p.IsUnusable f := by
  rintro ⟨fault, -, unnamed | unplaced⟩
  · exact unnamed textual.1
  · obtain ⟨v, hv, refused⟩ := exists_of_filePaths_eq_error unplaced
    obtain ⟨t, rfl⟩ := textual.2 v hv
    cases refused

end Package

/-- The names of all packages that a guide gives, and of their files, are texts. -/
def Guide.IsTextual (guide : Guide) : Prop :=
  ∀ before importPath p, guide.resolve before importPath = .ok p → p.IsTextual

namespace Catalog

variable (c : Catalog) (extract : Extractor)

/-- What there is to ask about an import path, with the answers: its package, then its files. -/
def stepsAt (importPath : Text) : List Exchange :=
  .resolving importPath (c.resolve importPath) ::
    match c.resolve importPath with
    | .error _ => []
    | .ok p =>
      match p.filePaths with
      | .error _ => []
      | .ok paths => paths.map fun path => .extracting path (extract path)

/-- What there is to ask, with the answers: the list, then each import path in it that is not
internal, in the order of the list. -/
def steps : List Exchange :=
  .listing c.list ::
    match c.list with
    | .error _ => []
    | .ok importPaths => (publicPaths importPaths).flatMap (c.stepsAt extract)

variable {c extract}

theorem steps_of_list {importPaths : List Text} (h : c.list = .ok importPaths) : c.steps extract =
    .listing (.ok importPaths) :: (publicPaths importPaths).flatMap (c.stepsAt extract) := by
  rw [steps, h]

theorem stepsAt_of_paths {importPath : Text} {p : Package} {paths : List Path}
    (h : c.resolve importPath = .ok p) (hp : p.filePaths = .ok paths) :
    c.stepsAt extract importPath = .resolving importPath (.ok p) ::
      paths.map fun path => .extracting path (extract path) := by
  rw [stepsAt, h]
  simp only [hp]

theorem resolving_isPrefix_stepsAt (importPath : Text) :
    [.resolving importPath (c.resolve importPath)] <+: c.stepsAt extract importPath := ⟨_, rfl⟩

end Catalog

theorem said_files (files : List FileVisit) : (Account.all FileVisit.account files).said =
    files.map fun file => .extracting file.path (.ok file.names) := List.map_eq_flatMap.symm

section answers

variable {c : Catalog} {extract : Extractor}

theorem map_extracting {files : List FileVisit}
    (h : ∀ file ∈ files, extract file.path = .ok file.names) :
    (files.map (·.path)).map (fun path => Exchange.extracting path (extract path)) =
      files.map fun file => .extracting file.path (.ok file.names) := by
  rw [List.map_map]
  refine List.map_congr_left fun file hfile => ?_
  rw [Function.comp_apply, h file hfile]

theorem Visit.said_account {v : Visit} (complete : v.IsComplete)
    (hp : c.resolve v.importPath = .ok v.package)
    (hfiles : ∀ file ∈ v.files, extract file.path = .ok file.names) :
    v.account.said = c.stepsAt extract v.importPath := by
  rw [Catalog.stepsAt_of_paths hp complete, map_extracting hfiles, ← said_files]
  simp [account]

theorem Survey.said_account {s : Survey} (complete : ∀ v ∈ s.visits, v.IsComplete)
    (answered : ∀ x ∈ s.account.said, x.IsAnswerOf c extract) :
    s.account.said = .listing (.ok s.importPaths) ::
      (s.visits.map (·.importPath)).flatMap (c.stepsAt extract) := by
  obtain ⟨-, hvisits⟩ := answers_of_said answered
  rw [List.flatMap_map]
  refine congrArg _ (List.flatMap_congr fun v hv => ?_)
  obtain ⟨hp, hfiles⟩ := hvisits v hv
  exact Visit.said_account (complete v hv) hp hfiles

theorem StopsAt.said_isPrefix {f : Failure} {importPath : Text} {a : Account}
    (h : StopsAt f importPath a) (answered : ∀ x ∈ a.said, x.IsAnswerOf c extract) :
    a.said <+: c.stepsAt extract importPath := by
  cases h with
  | unresolved =>
    have resolve : .error f = c.resolve importPath :=
      answered (.resolving importPath (.error f)) (by simp)
    exact resolve ▸ Catalog.resolving_isPrefix_stepsAt importPath
  | unextracted p files path later hpaths =>
    have resolve : .ok p = c.resolve importPath :=
      answered (.resolving importPath (.ok p)) (by simp)
    have refused : .error f = extract path := answered (.extracting path (.error f)) (by simp)
    have hfiles : ∀ file ∈ files, extract file.path = .ok file.names := fun file hfile => by
      have names : .ok file.names = extract file.path :=
        answered (.extracting file.path (.ok file.names))
          (by simpa [said_files] using ⟨_, hfile, rfl, rfl⟩)
      exact names.symm
    rw [Catalog.stepsAt_of_paths resolve.symm hpaths, List.map_append, map_extracting hfiles,
      List.map_cons, ← refused, ← said_files]
    exact ⟨later.map fun path => .extracting path (extract path), by simp⟩
  | unnamed p fault hf unnamed =>
    have resolve : .ok p = c.resolve importPath :=
      answered (.resolving importPath (.ok p)) (by simp)
    exact resolve ▸ Catalog.resolving_isPrefix_stepsAt importPath
  | unplaced p fault hf hp =>
    have resolve : .ok p = c.resolve importPath :=
      answered (.resolving importPath (.ok p)) (by simp)
    exact resolve ▸ Catalog.resolving_isPrefix_stepsAt importPath

theorem BreaksOff.said_isPrefix {f : Failure} {a : Account} (h : BreaksOff f a)
    (answered : ∀ x ∈ a.said, x.IsAnswerOf c extract) : a.said <+: c.steps extract := by
  cases h with
  | unlisted =>
    have list : .error f = c.list := answered _ (List.mem_singleton_self _)
    simp [Catalog.steps, ← list]
  | within s importPath later b paths complete stops =>
    have hs : ∀ x ∈ s.account.said, x.IsAnswerOf c extract :=
      fun x hx => answered x (List.mem_append_left _ hx)
    obtain ⟨rest, hrest⟩ := stops.said_isPrefix fun x hx =>
      answered x (List.mem_append_right _ hx)
    rw [Catalog.steps_of_list (Survey.answers_of_said hs).1, paths, Account.said_append,
      Survey.said_account complete hs, List.flatMap_append, List.flatMap_cons, ← hrest]
    exact ⟨rest ++ later.flatMap (c.stepsAt extract), by simp⟩

end answers

/-- Of what is said in a scan that breaks off, the last answer is the first one that refuses
something, unless it gives a package that cannot be used. -/
theorem BreaksOff.exists_last {f : Failure} {a : Account} (h : BreaksOff f a) :
    ∃ done last, a.said = done ++ [last] ∧ (∀ x ∈ done, x.failure? = none) ∧
      (last.failure? = some f ∨
        ∃ importPath p, last = .resolving importPath (.ok p) ∧ p.IsUnusable f) := by
  cases h with
  | unlisted => exact ⟨[], .listing (.error f), rfl, List.forall_mem_nil _, .inl rfl⟩
  | within s importPath later b paths complete stops =>
    have visited : ∀ x ∈ s.account.said, x.failure? = none := fun _ => Survey.failure?_of_mem_said
    cases stops with
    | unresolved =>
      exact ⟨s.account.said, .resolving importPath (.error f), Account.said_append _ _, visited,
        .inl rfl⟩
    | unextracted p files path later hpaths =>
      refine ⟨s.account.said ++
          .resolving importPath (.ok p) :: (Account.all FileVisit.account files).said,
        .extracting path (.error f), by simp, fun x hx => ?_, .inl rfl⟩
      rcases List.mem_append.1 hx with hx | hx
      · exact visited x hx
      · rcases List.mem_cons.1 hx with rfl | hx
        · rfl
        · rw [said_files] at hx
          obtain ⟨file, -, rfl⟩ := List.mem_map.1 hx
          rfl
    | unnamed p fault hf hp =>
      exact ⟨s.account.said, .resolving importPath (.ok p), Account.said_append _ _, visited,
        .inr ⟨importPath, p, rfl, fault, hf, .inl hp⟩⟩
    | unplaced p fault hf hp =>
      exact ⟨s.account.said, .resolving importPath (.ok p), Account.said_append _ _, visited,
        .inr ⟨importPath, p, rfl, fault, hf, .inr hp⟩⟩

namespace Scan

/-- **The failure of a scan**: it comes with the last answer, all answers before it have given what
was asked for, and the questions were those of a scan that breaks off there; with a fixed catalog
and extractor these are the first ones of `Catalog.steps`. The failure is the one that the last
answer is, and a diagnostic from the library is about the question; a package whose name or files
are no texts can end the scan as well. -/
theorem run_fails_at_first_failure (guide : Guide) (mode : Mode) (further : List Text)
    (f : Failure) (h : (run guide mode further).result = .error f) :
    ∃ done last, (run guide mode further).dialogue guide = done ++ [last] ∧
      (∀ x ∈ done, x.failure? = none) ∧
      (last.failure? = some f ∨
        ∃ importPath p, last = .resolving importPath (.ok p) ∧ p.IsUnusable f) ∧
      (guide.IsTextual → last.failure? = some f) ∧
      (∀ d, last.failure? = some (.diagnostic d) → last.IsOwn → last.IsBlamed d) ∧
      (∃ a, BreaksOff f a ∧ a.said = done ++ [last]) ∧
      ∀ c extract, guide = .of c extract → done ++ [last] <+: c.steps extract := by
  obtain ⟨s, -, hs, -⟩ | ⟨f', a, hf, hb, hd, -⟩ := run_course guide mode further
  · exact nomatch h.symm.trans hs
  obtain rfl : f = f' := Except.error.inj (h.symm.trans hf)
  obtain ⟨done, last, hsaid, hdone, hlast⟩ := hb.exists_last
  refine ⟨done, last, hd.trans hsaid, hdone, hlast, fun textual => ?_,
    fun d hfail own => Exchange.isBlamed_of_isOwn own hfail, ⟨a, hb, hsaid⟩, ?_⟩
  · refine hlast.resolve_right ?_
    rintro ⟨importPath, p, rfl, unusable⟩
    have asked : .resolving importPath (.ok p) ∈ (run guide mode further).dialogue guide := by
      simp [hd, hsaid]
    obtain ⟨before, hp⟩ := Guide.resolve_of_mem_dialogue asked
    exact Package.not_isUnusable (textual before importPath p hp.symm) unusable
  · rintro c extract rfl
    rw [← hsaid]
    exact hb.said_isPrefix (answered_of_dialogue hd)

/-- The extractor where there are no files at all. -/
def noFiles : Extractor := Extractor.of (FileTable.read ⟨[], none⟩) fun _ => Syntax.Node.smallFile

theorem run_fails_smallLibrary :
    (run (.of smallLibrary noFiles) .strict []).result =
      .error (unreadable (Path.parse "/src/fmt/print.go")
        ⟨"FileNotFoundError", "/src/fmt/print.go"⟩) ∧
    ∃ done last, (run (.of smallLibrary noFiles) .strict []).dialogue (.of smallLibrary noFiles) =
      done ++ [last] ∧ done ++ [last] <+: smallLibrary.steps noFiles := by
  have failed : (run (.of smallLibrary noFiles) .strict []).result =
      .error (unreadable (Path.parse "/src/fmt/print.go")
        ⟨"FileNotFoundError", "/src/fmt/print.go"⟩) := rfl
  obtain ⟨done, last, hd, -, -, -, -, -, hsteps⟩ := run_fails_at_first_failure _ _ _ _ failed
  exact ⟨failed, done, last, hd, hsteps _ _ rfl⟩

end Scan

end GoLexicon
