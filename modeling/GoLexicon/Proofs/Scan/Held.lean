import GoLexicon.Proofs.Scan.Blame
import GoLexicon.Proofs.Scan.Internal
/-!
# Packages held in memory

A catalog of packages under their own import paths may be given several packages with one import
path. The path then stands where it came first, and the package that came last is the one that is
kept: the keys of the catalog are the first occurrences (`StaticCatalog.firstOccurrences_ofPairs`),
and a key is looked up among the pairs from the end (`StaticCatalog.lookup_ofPairs`).

So such a catalog gives a package for each path it lists, none of them internal unless its path is,
and neither an enumeration nor a scan fails for want of a package
(`StaticCatalog.resolves_what_it_lists`).
-/

namespace GoLexicon

/-! ## First occurrences -/

/-- The items of a list without repetitions, in the order in which each of them comes first. -/
structure FirstOccurrences {α : Type} [DecidableEq α] (items firsts : List α) : Prop where
  mem_iff : ∀ a, a ∈ firsts ↔ a ∈ items
  ordered : firsts.Pairwise fun a b => items.idxOf a < items.idxOf b

namespace FirstOccurrences

variable {α : Type} [DecidableEq α] {items firsts : List α} {a : α}

theorem nodup (h : FirstOccurrences items firsts) : firsts.Nodup :=
  h.ordered.imp fun {a b} hlt => by
    rintro rfl
    exact lt_irrefl _ hlt

/-- More items behind the given ones do not change where these come first. -/
theorem ordered_append (h : FirstOccurrences items firsts) (more : List α) :
    firsts.Pairwise fun a b => (items ++ more).idxOf a < (items ++ more).idxOf b := by
  refine h.ordered.imp_of_mem fun {a b} ha hb hlt => ?_
  rwa [List.idxOf_append_of_mem ((h.mem_iff a).1 ha), List.idxOf_append_of_mem ((h.mem_iff b).1 hb)]

/-- An item that has come before is no new one. -/
theorem concat_of_mem (h : FirstOccurrences items firsts) (ha : a ∈ firsts) :
    FirstOccurrences (items ++ [a]) firsts := by
  refine ⟨fun b => ?_, h.ordered_append [a]⟩
  rw [List.mem_append, List.mem_singleton, h.mem_iff]
  constructor
  · exact .inl
  · rintro (hb | rfl)
    · exact hb
    · exact (h.mem_iff b).1 ha

/-- An item that has not come before comes last. -/
theorem concat_of_not_mem (h : FirstOccurrences items firsts) (ha : a ∉ firsts) :
    FirstOccurrences (items ++ [a]) (firsts ++ [a]) := by
  have new : a ∉ items := fun h' => ha ((h.mem_iff a).2 h')
  refine ⟨fun b => ?_,
    List.pairwise_append.2 ⟨h.ordered_append [a], List.pairwise_singleton _ _, ?_⟩⟩
  · rw [List.mem_append, List.mem_append, h.mem_iff]
  · intro b hb c hc
    obtain rfl := List.mem_singleton.1 hc
    have before : b ∈ items := (h.mem_iff b).1 hb
    calc (items ++ [c]).idxOf b = items.idxOf b := List.idxOf_append_of_mem before
      _ < items.length := List.idxOf_lt_length_of_mem before
      _ ≤ (items ++ [c]).idxOf c := by
        rw [List.idxOf_append_of_notMem new]
        exact Nat.le_add_right _ _

end FirstOccurrences

/-! ## Keys and packages -/

namespace StaticCatalog

theorem map_fst_insert (path : Text) (p : Package) (held : List (Text × Package)) :
    (insert path p held).map (·.1) =
      if path ∈ held.map (·.1) then held.map (·.1) else held.map (·.1) ++ [path] := by
  induction held with
  | nil => rfl
  | cons q held ih =>
    rw [insert]
    by_cases hq : q.1 = path
    · rw [if_pos hq, List.map_cons, List.map_cons, if_pos (hq ▸ List.mem_cons_self), hq]
    · rw [if_neg hq, List.map_cons, List.map_cons, ih]
      simp only [List.mem_cons, Ne.symm hq, false_or]
      split <;> rfl

theorem lookup_insert (path : Text) (p : Package) (held : List (Text × Package)) (key : Text) :
    (insert path p held).lookup key = if key = path then some p else held.lookup key := by
  induction held with
  | nil => rw [insert, List.lookup_cons_ite]
  | cons q held ih =>
    rw [insert]
    by_cases hq : q.1 = path
    · rw [if_pos hq, List.lookup_cons_ite, List.lookup_cons_ite, hq]
      split <;> rfl
    · rw [if_neg hq, List.lookup_cons_ite, List.lookup_cons_ite, ih]
      by_cases hkey : key = path
      · have other : key ≠ q.1 := hkey ▸ Ne.symm hq
        simp only [if_pos hkey, if_neg other]
      · simp only [if_neg hkey]

variable (pairs : List (Text × Package))

theorem packages_ofPairs_concat (pair : Text × Package) :
    (ofPairs (pairs ++ [pair])).packages = insert pair.1 pair.2 (ofPairs pairs).packages := by
  rw [ofPairs, ofPairs, List.foldl_append]
  rfl

/-- The keys are listed in the order in which they come first. -/
theorem firstOccurrences_ofPairs :
    FirstOccurrences (pairs.map (·.1)) (ofPairs pairs).paths := by
  induction pairs using List.reverseRecOn with
  | nil => exact ⟨fun _ => .rfl, .nil⟩
  | append_singleton pairs pair ih =>
    rw [List.map_append, List.map_singleton, paths, packages_ofPairs_concat, map_fst_insert]
    by_cases held : pair.1 ∈ (ofPairs pairs).paths
    · exact if_pos held ▸ ih.concat_of_mem held
    · exact if_neg held ▸ ih.concat_of_not_mem held

/-- Under a key stands the package that came last. -/
theorem lookup_ofPairs (key : Text) :
    (ofPairs pairs).packages.lookup key = pairs.reverse.lookup key := by
  induction pairs using List.reverseRecOn with
  | nil => rfl
  | append_singleton pairs pair ih =>
    rw [packages_ofPairs_concat, lookup_insert, List.reverse_append, List.reverse_singleton,
      List.singleton_append, List.lookup_cons_ite, ih]

end StaticCatalog

/-- The last of some packages with an import path. -/
def IsLastOf (packages : List Package) (path : Text) (p : Package) : Prop :=
  ∃ before after, packages = before ++ p :: after ∧ p.importPath = .text path ∧
    ∀ q ∈ after, q.importPath ≠ .text path

namespace StaticCatalog

variable {packages : List Package} {path : Text} {p : Package}

theorem plain_eq_iff (texts : ∃ t, p.importPath = .text t) :
    p.importPath.plain = path ↔ p.importPath = .text path := by
  obtain ⟨t, ht⟩ := texts
  rw [ht, Json.text.injEq]
  rfl

theorem mem_paths_iff (texts : ∀ p ∈ packages, ∃ t, p.importPath = .text t) :
    path ∈ (ofPackages packages).paths ↔ ∃ p ∈ packages, p.importPath = .text path := by
  rw [ofPackages, (firstOccurrences_ofPairs _).mem_iff, List.map_map, List.mem_map]
  exact exists_congr fun p => and_congr_right fun hp => plain_eq_iff (texts p hp)

/-- With one more package behind the others, it is this one, or it is the last of the others and this
one has another import path. -/
theorem isLastOf_concat {last : Package} : IsLastOf (packages ++ [last]) path p ↔
    last = p ∧ last.importPath = .text path ∨
      last.importPath ≠ .text path ∧ IsLastOf packages path p := by
  constructor
  · rintro ⟨before, after, h, hp, behind⟩
    obtain rfl | ⟨after, q, rfl⟩ := List.eq_nil_or_concat' after
    · obtain ⟨-, h⟩ := List.append_inj' h rfl
      obtain rfl := List.singleton_inj.1 h
      exact .inl ⟨rfl, hp⟩
    · rw [← List.cons_append, ← List.append_assoc] at h
      obtain ⟨rfl, hq⟩ := List.append_inj' h rfl
      obtain rfl := List.singleton_inj.1 hq
      obtain ⟨behind, hlast⟩ := List.forall_mem_append.1 behind
      exact .inr ⟨hlast last (List.mem_singleton_self last), before, after, rfl, hp, behind⟩
  · rintro (⟨rfl, hlast⟩ | ⟨hlast, before, after, rfl, hp, behind⟩)
    · exact ⟨packages, [], rfl, hlast, List.forall_mem_nil _⟩
    · exact ⟨before, after ++ [last], by simp, hp,
        List.forall_mem_append.2 ⟨behind, List.forall_mem_singleton.2 hlast⟩⟩

/-- A package is looked up from the end. -/
theorem lookup_eq_some_iff (texts : ∀ p ∈ packages, ∃ t, p.importPath = .text t) :
    (ofPackages packages).packages.lookup path = some p ↔ IsLastOf packages path p := by
  rw [ofPackages, lookup_ofPairs]
  induction packages using List.reverseRecOn with
  | nil => simp [IsLastOf]
  | append_singleton packages last ih =>
    obtain ⟨others, hlast⟩ := List.forall_mem_append.1 texts
    have named : path = last.importPath.plain ↔ last.importPath = .text path :=
      eq_comm.trans (plain_eq_iff (hlast last (List.mem_singleton_self last)))
    rw [List.map_append, List.map_singleton, List.reverse_append, List.reverse_singleton,
      List.singleton_append, List.lookup_cons_ite, isLastOf_concat]
    by_cases hpath : last.importPath = .text path
    · rw [if_pos (named.2 hpath)]
      simp [hpath]
    · rw [if_neg (mt named.1 hpath), ih others]
      simp [hpath]

theorem resolve_eq_ok_iff (texts : ∀ p ∈ packages, ∃ t, p.importPath = .text t) :
    (ofPackages packages).resolve path = .ok p ↔ IsLastOf packages path p := by
  rw [← lookup_eq_some_iff texts, resolve]
  cases (ofPackages packages).packages.lookup path with
  | none => simp
  | some q => rw [Except.ok.injEq, Option.some.injEq]

/-- A path that is not listed is refused. -/
theorem resolve_of_not_mem {c : StaticCatalog} (h : path ∉ c.paths) :
    c.resolve path = .error (unresolved (some path) ("Unknown package " ++ path.quoted)
      (some (Fault.missingKey path.quoted).origin)) := by
  rw [resolve, List.lookup_eq_none_iff_not_mem.2 h]

/-- The packages that stand under paths that are not internal, in the order of these. -/
def publicHeld (c : StaticCatalog) : List Package :=
  (c.packages.filter (!isInternal ·.1)).map (·.2)

/-- What is held is given. -/
theorem resolve_of_mem_packages {x : Text × Package} (h : x ∈ (ofPackages packages).packages) :
    (ofPackages packages).resolve x.1 = .ok x.2 := by
  have distinct : ((ofPackages packages).packages.map (·.1)).Nodup :=
    (firstOccurrences_ofPairs _).nodup
  rw [resolve, (List.lookup_eq_some_iff_mem distinct).2 h]

/-- A package is given for each path that is listed. -/
theorem exists_resolve_of_mem_paths (h : path ∈ (ofPackages packages).paths) :
    ∃ p, (ofPackages packages).resolve path = .ok p := by
  obtain ⟨x, hx, rfl⟩ := List.mem_map.1 h
  exact ⟨x.2, resolve_of_mem_packages hx⟩

theorem resolve_publicHeld (packages : List Package) :
    List.Forall₂ (fun path p => (ofPackages packages).resolve path = .ok p)
      (publicPaths (ofPackages packages).paths) (ofPackages packages).publicHeld := by
  rw [publicPaths, paths, List.filter_map, publicHeld, List.forall₂_map_left_iff,
    List.forall₂_map_right_iff]
  exact List.forall₂_same.2 fun x hx => resolve_of_mem_packages (List.mem_of_mem_filter hx)

theorem offers_of_mem_publicHeld (h : p ∈ (ofPackages packages).publicHeld) :
    (ofPackages packages).toCatalog.Offers p := by
  obtain ⟨x, hx, rfl⟩ := List.mem_map.1 h
  obtain ⟨hx, hpublic⟩ := List.mem_filter.1 hx
  exact ⟨_, rfl, x.1, List.mem_filter.2 ⟨List.mem_map_of_mem hx, hpublic⟩,
    resolve_of_mem_packages hx⟩

end StaticCatalog

/-! ## Where failures come from -/

theorem Guide.extract_of_mem_dialogue {guide : Guide} {events : List Event} {path : Path}
    {answer : Except Failure (List Text)} (h : .extracting path answer ∈ guide.dialogue events) :
    ∃ before, answer = guide.extract before path := by
  obtain ⟨before, e, -, he⟩ := mem_dialogue h
  cases e <;> cases he
  exact ⟨before, rfl⟩

/-- A diagnostic that a scan fails with is that of the list, of an import path that is listed and
not internal, or of a file. -/
theorem Scan.origin_of_run {guide : Guide} {mode : Mode} {further : List Text} {d : Diagnostic}
    (h : (run guide mode further).result = .error (.diagnostic d)) :
    (∃ before, guide.list before = .error (.diagnostic d)) ∨
    (∃ before path, guide.Lists path ∧ guide.resolve before path = .error (.diagnostic d)) ∨
    ∃ before path, guide.extract before path = .error (.diagnostic d) := by
  obtain ⟨s, survey, hs, -⟩ | ⟨f, a, hf, hb, hd, -⟩ := run_course guide mode further
  · exact nomatch h.symm.trans hs
  · obtain rfl : Failure.diagnostic d = f := Except.error.inj (h.symm.trans hf)
    have list : ∀ answer, .listing answer ∈ a.said → ∃ before, guide.list before = answer := by
      intro answer hx
      obtain ⟨before, hbefore⟩ := Guide.list_of_mem_dialogue (hd ▸ hx)
      exact ⟨before, hbefore.symm⟩
    cases hb with
    | unlisted => exact .inl (list _ (List.mem_singleton_self _))
    | within survey importPath later b paths complete stops =>
      cases stops with
      | unresolved =>
        obtain ⟨before, hlist⟩ := list (.ok survey.importPaths) (by simp [Survey.mem_said])
        have listed : guide.Lists importPath := ⟨before, _, hlist, by simp [paths]⟩
        have asked : .resolving importPath (.error (.diagnostic d)) ∈
            (run guide mode further).dialogue guide := by simp [hd]
        obtain ⟨before', hresolve⟩ := Guide.resolve_of_mem_dialogue asked
        exact .inr (.inl ⟨before', importPath, listed, hresolve.symm⟩)
      | unextracted p files path later hpaths =>
        have asked : .extracting path (.error (.diagnostic d)) ∈
            (run guide mode further).dialogue guide := by simp [hd]
        obtain ⟨before, hextract⟩ := Guide.extract_of_mem_dialogue asked
        exact .inr (.inr ⟨before, path, hextract.symm⟩)
      | unnamed p fault hfault => cases hfault
      | unplaced p fault hfault => cases hfault

/-- The subject is an import path that is to be resolved, or the list of them. -/
def Subject.IsResolution (s : Subject) : Prop := ∃ path, s = .resolution path

/-- What is about a file is about no import path. -/
theorem Blames.not_isResolution {α : Type} {x : Except Failure α} {file : Text}
    (h : Blames (·.filePath? = some file) x) : Blames (¬ ·.IsResolution) x := by
  rintro d hd ⟨path, hpath⟩
  exact nomatch hpath ▸ h d hd

namespace StaticCatalog

theorem not_isResolution_of_run {packages : List Package}
    {extract : List Event → Path → Except Failure (List Text)}
    (hextract : ∀ before path, Blames (¬ ·.IsResolution) (extract before path)) (mode : Mode)
    (further : List Text) : Blames (¬ ·.IsResolution)
      (Scan.run ((ofPackages packages).toCatalog.guide extract) mode further).result := by
  intro d hd
  obtain ⟨_, hlist⟩ | ⟨_, path, ⟨_, importPaths, hlist, hpath⟩, hresolve⟩ | ⟨before, path, h⟩ :=
    Scan.origin_of_run hd
  · exact nomatch hlist
  · -- the path is listed, so a package is given for it
    obtain rfl : (ofPackages packages).paths = importPaths := Except.ok.inj hlist
    obtain ⟨p, hp⟩ := exists_resolve_of_mem_paths (List.mem_of_mem_filter hpath)
    exact nomatch hresolve.symm.trans hp
  · exact hextract before path d h

/-- **A catalog in memory resolves what it lists**, also where several packages have one import
path. It lists each path once, in the order in which they come first, and gives for it the package
that came last, which has this path. Any other path is refused with a diagnostic that is about it.

So an enumeration gives a package for each path that is not internal, and no internal one, and comes
to its end without a failure. A scan does not fail with a diagnostic on an import path either,
unless its extractor does; those of the library never do. -/
theorem resolves_what_it_lists (packages : List Package)
    (texts : ∀ p ∈ packages, ∃ t, p.importPath = .text t) :
    let c := ofPackages packages
    c.paths.Nodup ∧ FirstOccurrences (packages.map (·.importPath.plain)) c.paths ∧
    (∀ path, path ∈ c.paths ↔ ∃ p ∈ packages, p.importPath = .text path) ∧
    (∀ path ∈ c.paths, ∃ p, c.resolve path = .ok p ∧ IsLastOf packages path p) ∧
    (∀ path, path ∉ c.paths → c.resolve path =
      .error (unresolved (some path) ("Unknown package " ++ path.quoted)
        (some (Fault.missingKey path.quoted).origin))) ∧
    (∃ given, List.Forall₂ (IsLastOf packages) (publicPaths c.paths) given ∧
      (∀ p ∈ given, ¬ p.IsInternal) ∧
      ∀ extract n r, Enumeration.answers (c.toCatalog.guide extract) n .fresh r =
        (List.range n).map fun i => .ok given[i]?) ∧
    (∀ extract, (∀ before path, Blames (¬ ·.IsResolution) (extract before path)) →
      ∀ mode further, Blames (¬ ·.IsResolution)
        (Scan.run (c.toCatalog.guide extract) mode further).result) ∧
    ∀ (fs : FileSystem) (table : FileTable) parse path,
      Blames (¬ ·.IsResolution) (Extractor.of fs.read parse path) ∧
      Blames (¬ ·.IsResolution) (Extractor.of table.read parse path) := by
  intro c
  have firsts : FirstOccurrences (packages.map (·.importPath.plain)) c.paths := by
    have ofPairs := firstOccurrences_ofPairs (packages.map fun p => (p.importPath.plain, p))
    rwa [List.map_map] at ofPairs
  have last : List.Forall₂ (IsLastOf packages) (publicPaths c.paths) c.publicHeld :=
    (resolve_publicHeld packages).imp fun _ _ => (resolve_eq_ok_iff texts).1
  refine ⟨firsts.nodup, firsts, fun path => mem_paths_iff texts, ?_, fun path => resolve_of_not_mem,
    ⟨c.publicHeld, last, ?_, ?_⟩, fun extract => not_isResolution_of_run, ?_⟩
  · intro path hpath
    obtain ⟨p, hp⟩ := exists_resolve_of_mem_paths hpath
    exact ⟨p, hp, (resolve_eq_ok_iff texts).1 hp⟩
  · exact fun p hp => (isFaithful_ofPackages texts).not_isInternal (offers_of_mem_publicHeld hp)
  · intro extract n r
    have list : c.toCatalog.list = .ok c.paths := rfl
    exact Enumeration.answers_fresh list (resolve_publicHeld packages) n r
  · exact fun fs table parse path =>
      ⟨(Extractor.blames_of (fs.blames_read path) parse).not_isResolution,
        (Extractor.blames_of (table.blames_read path) parse).not_isResolution⟩

/-- Packages of which two have one import path, and one has an internal one. -/
def repeated : List Package :=
  [formatting.toPackage, binaryInterface.toPackage,
    { formatting.toPackage with name := .text "format" }]

theorem resolves_what_it_lists_repeated :
    (∀ p ∈ repeated, ∃ t, p.importPath = .text t) ∧
    FirstOccurrences (repeated.map (·.importPath.plain)) (ofPackages repeated).paths ∧
    (ofPackages repeated).paths = ["fmt", "internal/abi"] ∧
    (ofPackages repeated).resolve "fmt" = .ok { formatting.toPackage with name := .text "format" } ∧
    (∃ given, List.Forall₂ (IsLastOf repeated) (publicPaths (ofPackages repeated).paths) given ∧
      (∀ p ∈ given, ¬ p.IsInternal) ∧
      ∀ extract n r,
        Enumeration.answers ((ofPackages repeated).toCatalog.guide extract) n .fresh r =
          (List.range n).map fun i => .ok given[i]?) ∧
    ∀ mode further, Blames (¬ ·.IsResolution)
      (Scan.run ((ofPackages repeated).toCatalog.guide fun _ _ => .ok ["Println"]) mode
        further).result := by
  have texts : ∀ p ∈ repeated, ∃ t, p.importPath = .text t := by
    simp [repeated, Description.toPackage]
  obtain ⟨-, firsts, -, -, -, enumeration, scans, -⟩ := resolves_what_it_lists repeated texts
  exact ⟨texts, firsts, by decide, rfl, enumeration, scans _ fun _ _ => .ok _⟩

end StaticCatalog

end GoLexicon
