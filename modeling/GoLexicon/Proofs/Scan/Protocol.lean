import GoLexicon.Proofs.Scan.FirstFailure
/-!
# What the display is told

The display is told of a scan in one order, wherever the scan breaks off (`Scan.run_told`): it is
entered, the scan starts, each package is begun and finished before the next one is begun, and the
display is left. That the scan is finished is told only if it succeeds. A package is left unfinished
only if the scan breaks off among its files, and then it is the last one.

The packages are those that the guide gives for the import paths of its list that are not internal,
one for each (`Scan.Outcome.ObtainsLibrary`), or for the first of them where the scan breaks off.
-/

namespace GoLexicon

/-- The package that an exchange gives. -/
def Exchange.package? : Exchange → Option Package
  | resolving _ (.ok p) => some p
  | _ => none

namespace Exchange

@[simp] theorem package?_listing (answer : Except Failure (List Text)) :
    (listing answer).package? = none := rfl

@[simp] theorem package?_extracting (path : Path) (answer : Except Failure (List Text)) :
    (extracting path answer).package? = none := rfl

@[simp] theorem package?_resolving_ok (importPath : Text) (p : Package) :
    (resolving importPath (.ok p)).package? = some p := rfl

@[simp] theorem package?_resolving_error (importPath : Text) (f : Failure) :
    (resolving importPath (.error f)).package? = none := rfl

end Exchange

/-- What the display is told of a package from its beginning to its end. -/
def Package.told (p : Package) : List Event :=
  [.packageStarted p.importPath, .packageFinished p.importPath]

namespace Scan.Outcome

/-- What the display is told, in order. -/
def told (o : Outcome) : List Event := o.trace.filter (·.isTold)

/-- The packages that a scan is given, in order. -/
def packages (o : Outcome) (guide : Guide) : List Package :=
  (o.dialogue guide).filterMap Exchange.package?

/-- A scan asks for the list, and its guide gives it. -/
def ObtainsList (o : Outcome) (guide : Guide) (importPaths : List Text) : Prop :=
  ∃ before, before.reverse ++ [.listed] <+: o.trace ∧ guide.list before = .ok importPaths

/-- A scan asks for an import path, and its guide gives a package for it. -/
def Obtains (o : Outcome) (guide : Guide) (importPath : Text) (p : Package) : Prop :=
  ∃ before, before.reverse ++ [.resolved importPath] <+: o.trace ∧
    guide.resolve before importPath = .ok p

/-- The packages that a scan is given are those of the import paths of the list that are not
internal, in order and one for each. -/
def ObtainsLibrary (o : Outcome) (guide : Guide) : Prop :=
  ∃ importPaths, o.ObtainsList guide importPaths ∧
    List.Forall₂ (o.Obtains guide) (publicPaths importPaths) (o.packages guide)

/-- The packages that a scan is given are those of the first import paths of the list that are not
internal, in order and one for each. There are none if the list is not given. -/
def ObtainsBeginning (o : Outcome) (guide : Guide) : Prop :=
  o.packages guide = [] ∨ ∃ importPaths asked, o.ObtainsList guide importPaths ∧
    asked <+: publicPaths importPaths ∧ List.Forall₂ (o.Obtains guide) asked (o.packages guide)

end Scan.Outcome

/-! ## Questions in a trace -/

section questions

variable {guide : Guide} {o : Scan.Outcome} {x : Exchange}

theorem Scan.Outcome.exists_prefix_of_mem_dialogue (h : x ∈ o.dialogue guide) :
    ∃ before e, before.reverse ++ [e] <+: o.trace ∧ guide.exchange? before e = some x := by
  obtain ⟨before, e, hsuffix, he⟩ := Guide.mem_dialogue h
  refine ⟨before, e, ?_, he⟩
  rw [← List.reverse_cons, ← List.reverse_suffix, List.reverse_reverse]
  exact hsuffix

theorem Scan.Outcome.obtainsList_of_mem {importPaths : List Text}
    (h : .listing (.ok importPaths) ∈ o.dialogue guide) : o.ObtainsList guide importPaths := by
  obtain ⟨before, e, hprefix, he⟩ := exists_prefix_of_mem_dialogue h
  cases e with
  | listed => exact ⟨before, hprefix, Exchange.listing.inj (Option.some.inj he)⟩
  | _ => cases he

theorem Scan.Outcome.obtains_of_mem {importPath : Text} {p : Package}
    (h : .resolving importPath (.ok p) ∈ o.dialogue guide) : o.Obtains guide importPath p := by
  obtain ⟨before, e, hprefix, he⟩ := exists_prefix_of_mem_dialogue h
  cases e with
  | resolved path =>
    obtain ⟨rfl, hp⟩ := Exchange.resolving.inj (Option.some.inj he)
    exact ⟨before, hprefix, hp⟩
  | _ => cases he

end questions

/-! ## Accounts -/

section accounts

theorem told_files (files : List FileVisit) : (Account.all FileVisit.account files).told = [] := by
  simp [Account.all, FileVisit.account]

theorem packages_files (files : List FileVisit) :
    (Account.all FileVisit.account files).said.filterMap Exchange.package? = [] := by
  rw [said_files]
  simp [List.filterMap_map, Function.comp_def]

theorem Visit.told_account (v : Visit) : v.account.told = v.package.told := by
  simp [Visit.account, told_files, Package.told]

theorem Visit.packages_account (v : Visit) :
    v.account.said.filterMap Exchange.package? = [v.package] := by
  simp [Visit.account, packages_files]

/-- The display is told of one package after the other. -/
theorem Survey.told_account (s : Survey) :
    s.account.told = (s.visits.map (·.package)).flatMap Package.told := by
  simp [Survey.account, Account.all, Visit.told_account, List.flatMap_map]

theorem Survey.packages_account (s : Survey) :
    s.account.said.filterMap Exchange.package? = s.visits.map (·.package) := by
  have said : s.account.said = .listing (.ok s.importPaths) :: s.visits.flatMap (·.account.said) :=
    rfl
  rw [said, List.filterMap_cons_none (Exchange.package?_listing _), List.filterMap_flatMap]
  simp only [Visit.packages_account]
  exact List.map_eq_flatMap.symm

/-- The visits of a survey that is part of a dialogue are to packages that are given. -/
theorem Survey.obtains {s : Survey} {o : Scan.Outcome} {guide : Guide}
    (h : s.account.said ⊆ o.dialogue guide) : o.ObtainsList guide s.importPaths ∧
      List.Forall₂ (o.Obtains guide) (s.visits.map (·.importPath)) (s.visits.map (·.package)) := by
  refine ⟨Scan.Outcome.obtainsList_of_mem (h (Survey.mem_said.2 (.inl rfl))), ?_⟩
  rw [List.forall₂_map_left_iff, List.forall₂_map_right_iff, List.forall₂_same]
  exact fun v hv =>
    Scan.Outcome.obtains_of_mem (h (Survey.mem_said.2 (.inr ⟨v, hv, .inl rfl⟩)))

/-- A scan with the dialogue of a whole library is given the packages of its list. -/
theorem Survey.obtainsLibrary {s : Survey} {o : Scan.Outcome} {guide : Guide}
    (complete : s.IsComplete) (hd : o.dialogue guide = s.account.said) :
    o.ObtainsLibrary guide := by
  have said : s.account.said ⊆ o.dialogue guide := by rw [hd]; exact List.Subset.refl _
  obtain ⟨list, packages⟩ := s.obtains said
  refine ⟨s.importPaths, list, ?_⟩
  rwa [Scan.Outcome.packages, hd, s.packages_account, ← complete.1]

end accounts

/-! ## Where a scan breaks off -/

section breaks

variable {f : Failure} {importPath : Text} {a : Account}

/-- The last question of a scan was about a file of a package, whose names are not given; or it was
about the package, and the package is given, but it is of no use. -/
def Package.FailsInside (p : Package) (f : Failure) (said : List Exchange) : Prop :=
  (∃ paths path, p.filePaths = .ok paths ∧ path ∈ paths ∧
    said.getLast? = some (.extracting path (.error f))) ∨
  (∃ importPath, said.getLast? = some (.resolving importPath (.ok p))) ∧ p.IsUnusable f

/-- A scan that breaks off at an import path is not given the package, and tells the display
nothing; or it is given the package, and tells the display that this is begun. -/
theorem StopsAt.told_cases (h : StopsAt f importPath a) :
    (a.said = [.resolving importPath (.error f)] ∧ a.told = []) ∨
    ∃ p, .resolving importPath (.ok p) ∈ a.said ∧ a.said.filterMap Exchange.package? = [p] ∧
      a.told = [.packageStarted p.importPath] ∧ ∀ before, p.FailsInside f (before ++ a.said) := by
  cases h with
  | unresolved => exact .inl ⟨rfl, rfl⟩
  | unextracted p files path later hpaths =>
    refine .inr ⟨p, List.mem_cons_self, ?_, ?_,
      fun before => .inl ⟨_, path, hpaths, by simp, ?_⟩⟩
    · simp [packages_files]
    · simp [told_files]
    · rw [Account.said_append, ← List.append_assoc]
      exact List.getLast?_concat
  | unnamed p fault hf h =>
    exact .inr ⟨p, List.mem_cons_self, rfl, rfl,
      fun _ => .inr ⟨⟨importPath, List.getLast?_concat⟩, fault, hf, .inl h⟩⟩
  | unplaced p fault hf h =>
    exact .inr ⟨p, List.mem_cons_self, rfl, rfl,
      fun _ => .inr ⟨⟨importPath, List.getLast?_concat⟩, fault, hf, .inr h⟩⟩

/-- A scan that breaks off has told the display of all packages that it was given, from beginning to
end, but for the last one if it fails inside this. -/
theorem BreaksOff.told_cases (h : BreaksOff f a) :
    ((a.said.getLast? = some (.listing (.error f)) ∨
        ∃ importPath, a.said.getLast? = some (.resolving importPath (.error f))) ∧
      a.told = (a.said.filterMap Exchange.package?).flatMap Package.told) ∨
    ∃ done p, a.said.filterMap Exchange.package? = done ++ [p] ∧ p.FailsInside f a.said ∧
      a.told = done.flatMap Package.told ++ [.packageStarted p.importPath] := by
  cases h with
  | unlisted => exact .inl ⟨.inl rfl, rfl⟩
  | within s importPath later b _ _ stops =>
    rw [Account.said_append, Account.told_append, List.filterMap_append, s.told_account,
      s.packages_account]
    obtain ⟨hsaid, htold⟩ | ⟨p, -, hgiven, htold, hinside⟩ := stops.told_cases
    · refine .inl ⟨.inr ⟨importPath, ?_⟩, ?_⟩
      · rw [hsaid]
        exact List.getLast?_concat
      · rw [hsaid, htold, List.filterMap_cons_none (Exchange.package?_resolving_error _ _),
          List.filterMap_nil, List.append_nil, List.append_nil]
    · exact .inr ⟨_, p, by rw [hgiven], hinside s.account.said, by rw [htold]⟩

/-- A scan that breaks off is given the packages of its list up to where it stops, and it may be the
one there as well. -/
theorem BreaksOff.obtainsBeginning {o : Scan.Outcome} {guide : Guide} (h : BreaksOff f a)
    (hd : o.dialogue guide = a.said) : o.ObtainsBeginning guide := by
  unfold Scan.Outcome.ObtainsBeginning Scan.Outcome.packages
  rw [hd]
  cases h with
  | unlisted => exact .inl rfl
  | within s importPath later b paths _ stops =>
    rw [Account.said_append] at hd ⊢
    have said : s.account.said ⊆ o.dialogue guide := by simp [hd]
    obtain ⟨list, packages⟩ := s.obtains said
    rw [List.filterMap_append, s.packages_account]
    refine .inr ⟨s.importPaths, ?_⟩
    obtain ⟨hsaid, -⟩ | ⟨p, hp, hgiven, -⟩ := stops.told_cases
    · refine ⟨s.visits.map (·.importPath), list, paths ▸ List.prefix_append _ _, ?_⟩
      rw [hsaid, List.filterMap_cons_none (Exchange.package?_resolving_error _ _),
        List.filterMap_nil, List.append_nil]
      exact packages
    · have given : o.Obtains guide importPath p := Scan.Outcome.obtains_of_mem (by simp [hd, hp])
      refine ⟨s.visits.map (·.importPath) ++ [importPath], list, ⟨later, ?_⟩, ?_⟩
      · rw [paths, List.append_assoc, List.singleton_append]
      · rw [hgiven]
        exact List.rel_append packages (.cons given .nil)

end breaks

namespace Scan

theorem obtainsLibrary_run {guide : Guide} {mode : Mode} {further : List Text} {s : WordSet}
    (h : (run guide mode further).result = .ok s) :
    (run guide mode further).ObtainsLibrary guide := by
  obtain ⟨_, survey, -, hcomplete, hd, -⟩ | ⟨f, -, hf, -⟩ := run_course guide mode further
  · exact survey.obtainsLibrary hcomplete hd
  · exact nomatch h.symm.trans hf

/-- **What the display is told of a scan**: it is entered and the scan starts. Then it is told of
the packages that the scan is given, one after the other, from beginning to end. If the scan
succeeds, it is told how many packages and words there are, and left without a failure. If it fails,
the display is left with this failure, and it may be that the last package has only been begun: this
is so where the scan breaks off inside the package, and not where the list or a package is not
given.

The packages are those that the guide gives for the import paths of its list that are not internal,
and if the scan fails, for the first of these. -/
theorem run_told (guide : Guide) (mode : Mode) (further : List Text) :
    let o := run guide mode further
    (∃ s, o.result = .ok s ∧ o.ObtainsLibrary guide ∧
      o.told = [.entered, .scanStarted] ++ (o.packages guide).flatMap Package.told
        ++ [.scanFinished (o.packages guide).length s.size, .left none]) ∨
    ∃ f, o.result = .error f ∧ o.ObtainsBeginning guide ∧
      (((o.dialogue guide).getLast? = some (.listing (.error f)) ∨
          ∃ importPath, (o.dialogue guide).getLast? = some (.resolving importPath (.error f))) ∧
        o.told = [.entered, .scanStarted] ++ (o.packages guide).flatMap Package.told
          ++ [.left (some f)] ∨
      ∃ done p, o.packages guide = done ++ [p] ∧ p.FailsInside f (o.dialogue guide) ∧
        o.told = [.entered, .scanStarted] ++ done.flatMap Package.told
          ++ [.packageStarted p.importPath, .left (some f)]) := by
  intro o
  obtain ⟨s, survey, hs, -, hd, ht, -⟩ | ⟨f, a, hf, hb, hd, ht⟩ := run_course guide mode further
  · have packages : o.packages guide = survey.visits.map (·.package) := by
      rw [Outcome.packages, hd, survey.packages_account]
    refine .inl ⟨s, hs, obtainsLibrary_run hs, ?_⟩
    rw [packages, List.length_map, ← survey.told_account]
    exact ht
  · have packages : o.packages guide = a.said.filterMap Exchange.package? := by
      rw [Outcome.packages, hd]
    refine .inr ⟨f, hf, hb.obtainsBeginning hd, ?_⟩
    obtain ⟨hlast, htold⟩ | ⟨done, p, hgiven, hinside, htold⟩ := hb.told_cases
    · refine .inl ⟨by rwa [hd], ?_⟩
      rw [packages, ← htold]
      exact ht
    · refine .inr ⟨done, p, packages.trans hgiven, by rwa [hd], ?_⟩
      rw [htold] at ht
      refine ht.trans ?_
      simp

/-- A scan that is given the packages of the small library is given the public one. -/
theorem Outcome.packages_smallLibrary {o : Outcome} {extract : Extractor}
    (h : o.ObtainsLibrary (.of smallLibrary extract)) :
    o.packages (.of smallLibrary extract) =
      [⟨.text "fmt", Path.parse "/src/fmt", [.text "print.go"], .text "fmt"⟩] := by
  obtain ⟨importPaths, ⟨_, -, list⟩, obtains⟩ := h
  obtain rfl := Except.ok.inj list
  have asked : publicPaths ["fmt", "internal/abi"] = ["fmt"] := by decide +kernel
  rw [asked] at obtains
  obtain ⟨p, _, ⟨_, -, given⟩, none, packages⟩ := List.forall₂_cons_left_iff.1 obtains
  obtain rfl := Except.ok.inj given
  obtain rfl := List.forall₂_nil_left_iff.1 none
  exact packages

/-- The small library has one public package, with one file. A scan of it tells the display of the
package from beginning to end if the file is there, and else of its beginning. -/
theorem run_told_smallLibrary :
    (∃ s : WordSet, (run (.of smallLibrary fun _ => .ok ["Println"]) .strict []).told =
      [.entered, .scanStarted, .packageStarted (.text "fmt"), .packageFinished (.text "fmt"),
        .scanFinished 1 s.size, .left none]) ∧
    (run (.of smallLibrary noFiles) .strict []).told =
      [.entered, .scanStarted, .packageStarted (.text "fmt"),
        .left (some (unreadable (Path.parse "/src/fmt/print.go")
          ⟨"FileNotFoundError", "/src/fmt/print.go"⟩))] := by
  constructor
  · obtain ⟨s, -, library, told⟩ | ⟨f, failed, -⟩ :=
      run_told (.of smallLibrary fun _ => .ok ["Println"]) .strict []
    · rw [Outcome.packages_smallLibrary library] at told
      exact ⟨s, told⟩
    · obtain ⟨s, hs⟩ := (run_of_ok_iff isNamed_smallLibrary).2 (isReadable_smallLibrary ["Println"])
      exact nomatch failed.symm.trans hs
  · obtain ⟨s, hs, -⟩ | ⟨f, failed, -, ⟨last, -⟩ | ⟨done, p, given, -, told⟩⟩ :=
      run_told (.of smallLibrary noFiles) .strict []
    · exact nomatch hs
    · obtain last | ⟨importPath, last⟩ := last
      · exact nomatch last
      · exact nomatch last
    · obtain rfl := Except.error.inj failed
      have packages : (run (.of smallLibrary noFiles) .strict []).packages
          (.of smallLibrary noFiles) = [] ++
            [⟨.text "fmt", Path.parse "/src/fmt", [.text "print.go"], .text "fmt"⟩] := rfl
      obtain ⟨rfl, last⟩ := List.append_inj' (packages.symm.trans given) rfl
      obtain rfl := List.singleton_inj.1 last
      exact told

end Scan

end GoLexicon
