import GoLexicon.Proofs.Except
import GoLexicon.Proofs.Scan.Course
import GoLexicon.Scan.Extraction
/-!
# What a scan collects

A scan gives a set of words exactly when its guide gives everything that it is asked for: the list,
a package for each import path that is not internal, and the names of each file of these packages
(`run_ok_iff_survey`). The set is then that of the words of the vocabulary, of the names of the
packages, and of the names that the files declare (`mem_run`).

Both are said of any guide by the dialogue of the scan with it, and for guides whose answers depend
on nothing but the question by the catalog and the extractor alone (`run_of_ok_iff`, `mem_run_of`).
-/

namespace GoLexicon

/-! ## The dialogue and the guide -/

namespace Guide

variable {guide : Guide} {events : List Event}

/-- An exchange of a dialogue is a question that stands among the events, with the answer to it
after those before. -/
theorem mem_dialogue {x : Exchange} (h : x ∈ guide.dialogue events) :
    ∃ before e, e :: before <:+ events ∧ guide.exchange? before e = some x := by
  induction events with
  | nil => exact absurd h List.not_mem_nil
  | cons e before ih =>
    rcases List.mem_append.1 h with h | h
    · obtain ⟨earlier, e', hsuffix, he'⟩ := ih h
      exact ⟨earlier, e', hsuffix.trans (List.suffix_cons _ _), he'⟩
    · exact ⟨before, e, List.suffix_refl _, Option.mem_toList.1 h⟩

theorem list_of_mem_dialogue {answer : Except Failure (List Text)}
    (h : .listing answer ∈ guide.dialogue events) : ∃ before, answer = guide.list before := by
  obtain ⟨before, e, -, he⟩ := mem_dialogue h
  cases e <;> cases he
  exact ⟨before, rfl⟩

theorem resolve_of_mem_dialogue {importPath : Text} {answer : Except Failure Package}
    (h : .resolving importPath answer ∈ guide.dialogue events) :
    ∃ before, answer = guide.resolve before importPath := by
  obtain ⟨before, e, -, he⟩ := mem_dialogue h
  cases e <;> cases he
  exact ⟨before, rfl⟩

end Guide

/-- An exchange is answered as a catalog and an extractor do. -/
def Exchange.IsAnswerOf (c : Catalog) (extract : Extractor) : Exchange → Prop
  | .listing answer => answer = c.list
  | .resolving importPath answer => answer = c.resolve importPath
  | .extracting path answer => answer = extract path

theorem Guide.isAnswerOf_of_mem_dialogue {c : Catalog} {extract : Extractor} {events : List Event}
    {x : Exchange} (h : x ∈ (Guide.of c extract).dialogue events) : x.IsAnswerOf c extract := by
  obtain ⟨before, e, -, he⟩ := mem_dialogue h
  cases e <;> cases he <;> rfl

/-! ## What a dialogue says of a library -/

namespace Survey

variable {s : Survey} {x : Exchange}

theorem mem_said : x ∈ s.account.said ↔ x = .listing (.ok s.importPaths) ∨
    ∃ v ∈ s.visits, x = .resolving v.importPath (.ok v.package) ∨
      ∃ file ∈ v.files, x = .extracting file.path (.ok file.names) := by
  simp [account, Account.all, Visit.account, FileVisit.account]

theorem mem_tokens {token : Text} : token ∈ s.account.tokens ↔
    ∃ v ∈ s.visits, v.package.name = .text token ∨ ∃ file ∈ v.files, token ∈ file.names := by
  simp [account, Account.all, Visit.account, FileVisit.account, Package.mem_nameTokens]

theorem failure?_of_mem_said (h : x ∈ s.account.said) : x.failure? = none := by
  rcases mem_said.1 h with rfl | ⟨v, -, rfl | ⟨file, -, rfl⟩⟩ <;> rfl

end Survey

/-- A token comes up in a dialogue: it is the name of a package that is given, or one of the names
of a file. -/
def Occurs (token : Text) (dialogue : List Exchange) : Prop :=
  (∃ importPath p, .resolving importPath (.ok p) ∈ dialogue ∧ p.name = .text token) ∨
    ∃ path names, .extracting path (.ok names) ∈ dialogue ∧ token ∈ names

theorem Survey.occurs_iff {s : Survey} {token : Text} :
    Occurs token s.account.said ↔ token ∈ s.account.tokens := by
  rw [mem_tokens]
  constructor
  · rintro (⟨ip, p, hp, hn⟩ | ⟨path, names, hf, ht⟩)
    · obtain h | ⟨v, hv, h | ⟨file, -, h⟩⟩ := mem_said.1 hp <;> cases h
      exact ⟨v, hv, .inl hn⟩
    · obtain h | ⟨v, hv, h | ⟨file, hfile, h⟩⟩ := mem_said.1 hf <;> cases h
      exact ⟨v, hv, .inr ⟨file, hfile, ht⟩⟩
  · rintro ⟨v, hv, hn | ⟨file, hfile, ht⟩⟩
    · exact .inl ⟨v.importPath, v.package, mem_said.2 (.inr ⟨v, hv, .inl rfl⟩), hn⟩
    · exact .inr ⟨file.path, file.names, mem_said.2 (.inr ⟨v, hv, .inr ⟨file, hfile, rfl⟩⟩), ht⟩

/-- A scan that breaks off has been refused something, unless a package cannot be used. -/
theorem BreaksOff.refused {f : Failure} {a : Account} (h : BreaksOff f a) :
    (∃ x ∈ a.said, x.failure? = some f) ∨ ∃ importPath p, .resolving importPath (.ok p) ∈ a.said ∧
      (¬ p.IsNamed ∨ ∃ fault, p.filePaths = .error fault) := by
  cases h with
  | unlisted => exact .inl ⟨_, List.mem_singleton_self _, rfl⟩
  | within s importPath later b paths complete stops =>
    cases stops with
    | unresolved => exact .inl ⟨_, List.mem_append_right _ (List.mem_singleton_self _), rfl⟩
    | unextracted p files path later h =>
      exact .inl ⟨.extracting path (.error f), by simp, rfl⟩
    | unnamed p fault hf h => exact .inr ⟨importPath, p, by simp, .inl h⟩
    | unplaced p fault hf h => exact .inr ⟨importPath, p, by simp, .inr ⟨fault, h⟩⟩

/-! ## What a catalog and an extractor hold -/

namespace Package

/-- The path is that of one of the files of a package. -/
def HasFile (p : Package) (path : Path) : Prop :=
  ∃ v ∈ p.files, filePath p.directory v = .ok path

theorem mem_filePaths {p : Package} {paths : List Path} (h : p.filePaths = .ok paths)
    {path : Path} : path ∈ paths ↔ p.HasFile path := by
  have placed : ∀ {vs : List Json} {paths : List Path},
      List.Forall₂ (fun v path => filePath p.directory v = .ok path) vs paths →
        (path ∈ paths ↔ ∃ v ∈ vs, filePath p.directory v = .ok path) := by
    intro vs paths h
    induction h with
    | nil => simp
    | cons hv _ ih =>
      rw [List.mem_cons, ih, List.exists_mem_cons_iff, hv, Except.ok.injEq]
      exact or_congr_left eq_comm
  exact placed (Except.mapM_eq_ok_iff.1 h)

theorem exists_of_filePaths_eq_error {p : Package} {fault : Fault}
    (h : p.filePaths = .error fault) : ∃ v ∈ p.files, filePath p.directory v = .error fault := by
  obtain ⟨before, v, after, hfiles, -, hv⟩ := Except.mapM_eq_error_iff.1 h
  exact ⟨v, by simp [hfiles], hv⟩

end Package

namespace Catalog

variable (c : Catalog) (extract : Extractor)

/-- The names of all packages of a catalog are texts. -/
def IsNamed : Prop := ∀ importPath p, c.resolve importPath = .ok p → p.IsNamed

/-- The list of a catalog is given, a package is given for each import path in it that is not
internal, and the names of each file of these packages are given. -/
def IsReadable : Prop :=
  ∃ importPaths, c.list = .ok importPaths ∧ ∀ importPath ∈ publicPaths importPaths,
    ∃ p, c.resolve importPath = .ok p ∧ ∀ v ∈ p.files, ∃ path names,
      Package.filePath p.directory v = .ok path ∧ extract path = .ok names

/-- A catalog offers a package: it lists an import path that is not internal, and gives the package
for it. -/
def Offers (p : Package) : Prop :=
  ∃ importPaths, c.list = .ok importPaths ∧
    ∃ importPath ∈ publicPaths importPaths, c.resolve importPath = .ok p

/-- A token is the name of a package that is offered, or a name that one of its files declares. -/
def Declares (token : Text) : Prop :=
  ∃ p, c.Offers p ∧ (p.name = .text token ∨
    ∃ path names, p.HasFile path ∧ extract path = .ok names ∧ token ∈ names)

variable {c extract}

theorem isNamed_guide (named : c.IsNamed) : (Guide.of c extract).IsNamed :=
  fun _ importPath p h => named importPath p h

end Catalog

/-- A survey that a catalog and an extractor have answered says what they hold. -/
theorem Survey.answers_of_said {s : Survey} {c : Catalog} {extract : Extractor}
    (h : ∀ x ∈ s.account.said, x.IsAnswerOf c extract) : c.list = .ok s.importPaths ∧
      ∀ v ∈ s.visits, c.resolve v.importPath = .ok v.package ∧
        ∀ file ∈ v.files, extract file.path = .ok file.names := by
  have list : Exchange.IsAnswerOf c extract (.listing (.ok s.importPaths)) :=
    h _ (mem_said.2 (.inl rfl))
  refine ⟨list.symm, fun v hv => ?_⟩
  have resolve : Exchange.IsAnswerOf c extract (.resolving v.importPath (.ok v.package)) :=
    h _ (mem_said.2 (.inr ⟨v, hv, .inl rfl⟩))
  refine ⟨resolve.symm, fun file hfile => ?_⟩
  have names : Exchange.IsAnswerOf c extract (.extracting file.path (.ok file.names)) :=
    h _ (mem_said.2 (.inr ⟨v, hv, .inr ⟨file, hfile, rfl⟩⟩))
  exact names.symm

namespace Scan

variable {guide : Guide} {mode : Mode} {further : List Text} {s : WordSet}

/-! ## The set -/

theorem run_ok_iff_survey (named : guide.IsNamed) :
    (∃ s, (run guide mode further).result = .ok s) ↔ ∃ survey : Survey, survey.IsComplete ∧
      (run guide mode further).dialogue guide = survey.account.said := by
  obtain ⟨s, survey, hs, hc, hd, -⟩ | ⟨f, a, hf, hb, hd, -⟩ := run_course guide mode further
  · exact ⟨fun _ => ⟨survey, hc, hd⟩, fun _ => ⟨s, hs⟩⟩
  · refine ⟨fun ⟨s, hs⟩ => ?_, fun ⟨survey, complete, hsurvey⟩ => ?_⟩
    · rw [hf] at hs
      cases hs
    · have said : a.said = survey.account.said := hd.symm.trans hsurvey
      obtain ⟨x, hx, hxf⟩ | ⟨importPath, p, hp, unnamed | ⟨fault, hpaths⟩⟩ := hb.refused
      · rw [Survey.failure?_of_mem_said (said ▸ hx)] at hxf
        cases hxf
      · obtain ⟨before, hbefore⟩ := Guide.resolve_of_mem_dialogue (hd ▸ hp)
        exact absurd (named before importPath p hbefore.symm) unnamed
      · -- the package is one of the survey, so its files have paths
        obtain h | ⟨v, hv, h | ⟨file, -, h⟩⟩ := Survey.mem_said.1 (said ▸ hp) <;> cases h
        exact nomatch hpaths.symm.trans (complete.2 v hv)

theorem mem_seed {w : Text} : w ∈ seed mode further ∅ ↔
    ∃ token ∈ Vocabulary.tokens further, mode.IsFormOf w token := by
  rw [seed, WordSet.mem_addAll, Mode.mem_wordsOfAll]
  constructor
  · rintro (h | ⟨h, -⟩)
    · exact absurd h WordSet.not_mem_empty
    · exact h
  · exact fun h => .inr ⟨h, Mode.ne_nil_of_mem_wordsOfAll (Mode.mem_wordsOfAll.2 h)⟩

theorem mem_run (named : guide.IsNamed) (h : (run guide mode further).result = .ok s) (w : Text) :
    w ∈ s ↔ ∃ token, mode.IsFormOf w token ∧ (token ∈ Vocabulary.tokens further ∨
      Occurs token ((run guide mode further).dialogue guide)) := by
  obtain ⟨s', survey, hs, -, hd, -, hw⟩ | ⟨f, a, hf, -⟩ := run_course guide mode further
  · obtain rfl : s = s' := Except.ok.inj (h.symm.trans hs)
    rw [hd, hw named, WordSet.mem_addAll, mem_seed, Mode.mem_wordsOfAll]
    simp only [Survey.occurs_iff]
    constructor
    · rintro (⟨token, ht, hf⟩ | ⟨⟨token, ht, hf⟩, -⟩)
      · exact ⟨token, hf, .inl ht⟩
      · exact ⟨token, hf, .inr ht⟩
    · rintro ⟨token, hf, ht | ht⟩
      · exact .inl ⟨token, ht, hf⟩
      · exact .inr ⟨⟨token, ht, hf⟩,
          Mode.ne_nil_of_mem_wordsOfAll (Mode.mem_wordsOfAll.2 ⟨token, ht, hf⟩)⟩
  · rw [hf] at h
    cases h

theorem others_run (named : guide.IsNamed) (h : (run guide mode further).result = .ok s) :
    s.others = [] := by
  obtain ⟨s', survey, hs, -, -, -, hw⟩ | ⟨f, a, hf, -⟩ := run_course guide mode further
  · obtain rfl : s = s' := Except.ok.inj (h.symm.trans hs)
    rw [hw named, WordSet.others_addAll, seed, WordSet.others_addAll]
    rfl
  · rw [hf] at h
    cases h

/-! ## Catalogs and extractors -/

variable {c : Catalog} {extract : Extractor}

theorem isReadable_of_survey {survey : Survey} (hc : survey.IsComplete)
    (answered : ∀ x ∈ survey.account.said, x.IsAnswerOf c extract) : c.IsReadable extract := by
  obtain ⟨hlist, hvisits⟩ := Survey.answers_of_said answered
  refine ⟨survey.importPaths, hlist, fun importPath hpath => ?_⟩
  rw [← hc.1] at hpath
  obtain ⟨v, hv, rfl⟩ := List.mem_map.1 hpath
  obtain ⟨hresolve, hfiles⟩ := hvisits v hv
  refine ⟨v.package, hresolve, fun value hvalue => ?_⟩
  obtain ⟨path, hpath, hplaced⟩ := Except.exists_of_mapM_eq_ok (hc.2 v hv) hvalue
  obtain ⟨file, hmem, rfl⟩ := List.mem_map.1 hpath
  exact ⟨file.path, file.names, hplaced, hfiles file hmem⟩

/-- Where everything is given, nothing breaks a scan off. -/
theorem not_breaksOff {f : Failure} {a : Account} (named : c.IsNamed)
    (readable : c.IsReadable extract) (answered : ∀ x ∈ a.said, x.IsAnswerOf c extract) :
    ¬ BreaksOff f a := by
  obtain ⟨importPaths, hlist, hpackages⟩ := readable
  intro h
  cases h with
  | unlisted =>
    have list : .error f = c.list := answered _ (List.mem_singleton_self _)
    exact nomatch list.trans hlist
  | within survey importPath later b paths complete stops =>
    have hanswers := Survey.answers_of_said fun x hx => answered x (List.mem_append_left _ hx)
    obtain rfl : importPaths = survey.importPaths := Except.ok.inj (hlist.symm.trans hanswers.1)
    obtain ⟨p, hp, hfiles⟩ := hpackages importPath (by simp [paths])
    have given : ∀ q, .resolving importPath (.ok q) ∈ (survey.account ++ b).said → q = p :=
      fun q hq => Except.ok.inj ((answered _ hq).trans hp)
    cases stops with
    | unresolved =>
      have resolve : .error f = c.resolve importPath :=
        answered (.resolving importPath (.error f)) (by simp)
      exact nomatch resolve.trans hp
    | unextracted q files path later hpaths =>
      obtain rfl := given q (by simp)
      obtain ⟨v, hv, hplaced⟩ := (Package.mem_filePaths hpaths).1
        (List.mem_append_right _ List.mem_cons_self)
      obtain ⟨path', names, hpath', hnames⟩ := hfiles v hv
      obtain rfl : path' = path := Except.ok.inj (hpath'.symm.trans hplaced)
      have refused : .error f = extract path' := answered (.extracting path' (.error f)) (by simp)
      exact nomatch refused.trans hnames
    | unnamed q fault hf unnamed =>
      obtain rfl := given q (by simp)
      exact unnamed (named _ _ hp)
    | unplaced q fault hf hpaths =>
      obtain rfl := given q (by simp)
      obtain ⟨v, hv, hrefused⟩ := Package.exists_of_filePaths_eq_error hpaths
      obtain ⟨path, names, hpath, -⟩ := hfiles v hv
      exact nomatch hrefused.symm.trans hpath

theorem answered_of_dialogue {a : Account}
    (hd : (run (.of c extract) mode further).dialogue (.of c extract) = a.said) :
    ∀ x ∈ a.said, x.IsAnswerOf c extract :=
  fun _ hx => Guide.isAnswerOf_of_mem_dialogue (hd ▸ hx)

theorem run_of_ok_iff (named : c.IsNamed) :
    (∃ s, (run (.of c extract) mode further).result = .ok s) ↔ c.IsReadable extract := by
  obtain ⟨s, survey, hs, hc, hd, -⟩ | ⟨f, a, hf, hb, hd, -⟩ :=
    run_course (.of c extract) mode further
  · exact ⟨fun _ => isReadable_of_survey hc (answered_of_dialogue hd), fun _ => ⟨s, hs⟩⟩
  · refine ⟨fun ⟨s, hs⟩ => ?_, fun readable =>
      absurd hb (not_breaksOff named readable (answered_of_dialogue hd))⟩
    rw [hf] at hs
    cases hs

/-- The tokens of a complete survey are those that the catalog declares. -/
theorem declares_iff {survey : Survey} (hc : survey.IsComplete)
    (answered : ∀ x ∈ survey.account.said, x.IsAnswerOf c extract) {token : Text} :
    c.Declares extract token ↔ token ∈ survey.account.tokens := by
  obtain ⟨hlist, hvisits⟩ := Survey.answers_of_said answered
  rw [Survey.mem_tokens]
  constructor
  · rintro ⟨p, ⟨importPaths, hpaths, importPath, hpath, hp⟩, htoken⟩
    obtain rfl : importPaths = survey.importPaths := Except.ok.inj (hpaths.symm.trans hlist)
    rw [← hc.1] at hpath
    obtain ⟨v, hv, rfl⟩ := List.mem_map.1 hpath
    obtain rfl : p = v.package := Except.ok.inj (hp.symm.trans (hvisits v hv).1)
    refine ⟨v, hv, htoken.imp_right ?_⟩
    rintro ⟨path, names, hfile, hnames, ht⟩
    have hpath : path ∈ v.files.map (·.path) :=
      (Package.mem_filePaths (hc.2 v hv)).2 hfile
    obtain ⟨file, hmem, rfl⟩ := List.mem_map.1 hpath
    obtain rfl : names = file.names :=
      Except.ok.inj (hnames.symm.trans ((hvisits v hv).2 file hmem))
    exact ⟨file, hmem, ht⟩
  · rintro ⟨v, hv, htoken⟩
    obtain ⟨hresolve, hfiles⟩ := hvisits v hv
    have hpath : v.importPath ∈ publicPaths survey.importPaths := hc.1 ▸ List.mem_map_of_mem hv
    refine ⟨v.package, ⟨survey.importPaths, hlist, v.importPath, hpath, hresolve⟩, ?_⟩
    refine htoken.imp_right ?_
    rintro ⟨file, hfile, ht⟩
    refine ⟨file.path, file.names, ?_, hfiles file hfile, ht⟩
    rw [← Package.mem_filePaths (hc.2 v hv)]
    exact List.mem_map_of_mem hfile

theorem mem_run_of (named : c.IsNamed) (h : (run (.of c extract) mode further).result = .ok s)
    (w : Text) : w ∈ s ↔ ∃ token, mode.IsFormOf w token ∧
      (token ∈ Vocabulary.tokens further ∨ c.Declares extract token) := by
  obtain ⟨s', survey, hs, hc, hd, -⟩ | ⟨f, a, hf, -⟩ := run_course (.of c extract) mode further
  · rw [mem_run (Catalog.isNamed_guide named) h, hd]
    simp only [Survey.occurs_iff, declares_iff hc (answered_of_dialogue hd)]
  · rw [hf] at h
    cases h

/-- **What a scan collects**: it gives a set exactly when everything it asks for is given, and then
a word is in the set exactly when a token of the vocabulary, the name of a package, or a name that a
file declares has it for its form. So nothing is lost, nothing comes from elsewhere, in particular
not from an internal package, and the empty text is no word.

The first part is about guides whose answers may change from question to question, the second one
about those whose answers are fixed. -/
theorem run_collects_library (mode : Mode) (further : List Text) :
    (∀ guide : Guide, guide.IsNamed →
      ((∃ s, (run guide mode further).result = .ok s) ↔ ∃ survey : Survey, survey.IsComplete ∧
        (run guide mode further).dialogue guide = survey.account.said) ∧
      ∀ s, (run guide mode further).result = .ok s → s.others = [] ∧ [] ∉ s ∧
        ∀ w, w ∈ s ↔ ∃ token, mode.IsFormOf w token ∧ (token ∈ Vocabulary.tokens further ∨
          Occurs token ((run guide mode further).dialogue guide))) ∧
    ∀ (c : Catalog) (extract : Extractor), c.IsNamed →
      ((∃ s, (run (.of c extract) mode further).result = .ok s) ↔ c.IsReadable extract) ∧
      ∀ s, (run (.of c extract) mode further).result = .ok s → s.others = [] ∧ [] ∉ s ∧
        ∀ w, w ∈ s ↔ ∃ token, mode.IsFormOf w token ∧
          (token ∈ Vocabulary.tokens further ∨ c.Declares extract token) := by
  constructor
  · intro guide named
    refine ⟨run_ok_iff_survey named, fun s hs => ?_⟩
    exact ⟨others_run named hs, WordSet.not_mem_nil, mem_run named hs⟩
  · intro c extract named
    refine ⟨run_of_ok_iff named, fun s hs => ?_⟩
    exact ⟨others_run (Catalog.isNamed_guide named) hs, WordSet.not_mem_nil, mem_run_of named hs⟩

/-- A library with one package that is public, and one that is internal. -/
def smallLibrary : Catalog where
  list := .ok ["fmt", "internal/abi"]
  resolve importPath :=
    .ok ⟨.text importPath, Path.parse "/src/fmt", [.text "print.go"], .text "fmt"⟩

theorem isNamed_smallLibrary : smallLibrary.IsNamed := by
  intro importPath p h
  cases h
  exact ⟨"fmt", rfl⟩

theorem isReadable_smallLibrary (names : List Text) :
    smallLibrary.IsReadable fun _ => .ok names := by
  refine ⟨_, rfl, fun importPath _ => ⟨_, rfl, fun v hv => ?_⟩⟩
  obtain rfl := List.mem_singleton.1 hv
  exact ⟨_, _, rfl, rfl⟩

theorem offers_smallLibrary : smallLibrary.Offers
    ⟨.text "fmt", Path.parse "/src/fmt", [.text "print.go"], .text "fmt"⟩ :=
  ⟨_, rfl, "fmt", List.mem_filter.2 ⟨List.mem_cons_self, by decide +kernel⟩, rfl⟩

/-- The name that the one file declares is a word of each strict scan. -/
theorem println_mem_run {further : List Text} {s : WordSet}
    (h : (run (.of smallLibrary fun _ => .ok ["Println"]) .strict further).result = .ok s) :
    Text.ofString "println" ∈ s := by
  refine (mem_run_of isNamed_smallLibrary h _).2
    ⟨"Println", ?_, .inr ⟨_, offers_smallLibrary, .inr ?_⟩⟩
  · refine ⟨"Println", [], (List.append_nil _).symm, ?_, List.all_eq_true.1 ?_, nofun, ?_⟩
    all_goals decide +kernel
  · exact ⟨_, _, ⟨_, List.mem_cons_self, rfl⟩, rfl, List.mem_cons_self⟩

theorem run_collects_smallLibrary : smallLibrary.IsNamed ∧
    (∃ s, (run (.of smallLibrary fun _ => .ok ["Println"]) .strict []).result = .ok s ∧
      Text.ofString "println" ∈ s) ∧
    ∃ survey : Survey, survey.IsComplete ∧
      (run (.of smallLibrary fun _ => .ok ["Println"]) .strict []).dialogue
        (.of smallLibrary fun _ => .ok ["Println"]) = survey.account.said := by
  have named := isNamed_smallLibrary
  obtain ⟨returns, -⟩ := (run_collects_library .strict []).2 smallLibrary _ named
  obtain ⟨s, hs⟩ := returns.2 (isReadable_smallLibrary _)
  obtain ⟨surveyed, -⟩ :=
    (run_collects_library .strict []).1 _ (Catalog.isNamed_guide named)
  exact ⟨named, ⟨s, hs, println_mem_run hs⟩, surveyed.1 ⟨s, hs⟩⟩

end Scan

end GoLexicon
