import GoLexicon.Proofs.Scan.Providers
import GoLexicon.Proofs.Scan.Reordering
/-!
# Internal packages

Internal import paths are passed over where they are listed: whatever an enumeration gives, and
whatever a scan asks for, was listed under a path that is not internal (`Catalog.Reaches`). The
package that is given may carry another import path than the one it was listed under, and nothing
looks at that one.

So internal packages stay out of enumerations and of sets where a catalog gives packages that carry
the path that was asked for (`Catalog.IsFaithful`). A catalog of packages under their own import
paths does, and so does a toolchain that names no other path than the one it is asked for. A catalog
that holds an internal package under another path yields it, and a scan adds its words.
-/

namespace GoLexicon

/-- The import path of a package is an internal one. -/
def Package.IsInternal (p : Package) : Prop := ∃ t, p.importPath = .text t ∧ isInternal t = true

/-- An internal package carries no path that is not internal. -/
theorem Package.IsInternal.importPath_ne {p : Package} {importPath : Text} (h : p.IsInternal)
    (hpath : isInternal importPath = false) : p.importPath ≠ .text importPath := by
  obtain ⟨t, ht, internal⟩ := h
  rw [ht]
  rintro ⟨⟩
  exact nomatch hpath.symm.trans internal

theorem not_isInternal_of_mem {importPath : Text} {importPaths : List Text}
    (h : importPath ∈ publicPaths importPaths) : isInternal importPath = false := by
  simpa using (List.mem_filter.1 h).2

namespace Catalog

/-- Going through a catalog comes to an import path that is not internal, and the package that is
given for it: a package is given for each such path in front of it as well. -/
def Reaches (c : Catalog) (importPath : Text) (p : Package) : Prop :=
  ∃ importPaths before after, c.list = .ok importPaths ∧
    publicPaths importPaths = before ++ importPath :: after ∧
    (∀ other ∈ before, ∃ q, c.resolve other = .ok q) ∧ c.resolve importPath = .ok p

/-- Each package carries the import path for which it is given. -/
def IsFaithful (c : Catalog) : Prop :=
  ∀ importPath p, c.resolve importPath = .ok p → p.importPath = .text importPath

variable {c : Catalog} {importPath : Text} {p : Package}

theorem Reaches.isInternal_eq_false (h : c.Reaches importPath p) :
    isInternal importPath = false := by
  obtain ⟨importPaths, before, after, -, hpaths, -⟩ := h
  have listed : importPath ∈ publicPaths importPaths := by simp [hpaths]
  exact not_isInternal_of_mem listed

theorem Reaches.offers (h : c.Reaches importPath p) : c.Offers p := by
  obtain ⟨importPaths, before, after, hlist, hpaths, -, hp⟩ := h
  exact ⟨importPaths, hlist, importPath, by simp [hpaths], hp⟩

/-- Where packages carry the path that was asked for, none that is offered is internal. -/
theorem IsFaithful.not_isInternal (faithful : c.IsFaithful) (h : c.Offers p) : ¬ p.IsInternal := by
  obtain ⟨importPaths, -, importPath, hpath, hp⟩ := h
  exact fun internal => internal.importPath_ne (not_isInternal_of_mem hpath)
    (faithful importPath p hp)

end Catalog

/-! ## Enumerations -/

/-- The place of an item behind items of a kind is at the head of a list, or behind it. -/
theorem exists_split_cons_iff {α : Type} {P Q : α → Prop} {a : α} {l : List α} :
    (∃ before b after, a :: l = before ++ b :: after ∧ (∀ x ∈ before, P x) ∧ Q b) ↔
      Q a ∨ P a ∧ ∃ before b after, l = before ++ b :: after ∧ (∀ x ∈ before, P x) ∧ Q b := by
  constructor
  · rintro ⟨before, b, after, h, hbefore, hb⟩
    cases before with
    | nil =>
      obtain ⟨rfl, rfl⟩ := List.cons.inj h
      exact .inl hb
    | cons x before =>
      obtain ⟨rfl, rfl⟩ := List.cons.inj h
      obtain ⟨hx, hbefore⟩ := List.forall_mem_cons.1 hbefore
      exact .inr ⟨hx, before, b, after, rfl, hbefore, hb⟩
  · rintro (ha | ⟨ha, before, b, after, rfl, hbefore, hb⟩)
    · exact ⟨[], a, l, rfl, List.forall_mem_nil _, ha⟩
    · exact ⟨a :: before, b, after, rfl, List.forall_mem_cons.2 ⟨ha, hbefore⟩, hb⟩

theorem exists_split_map_iff {α β : Type} {f : α → β} {P Q : β → Prop} {l : List α} :
    (∃ before b after, l.map f = before ++ b :: after ∧ (∀ x ∈ before, P x) ∧ Q b) ↔
      ∃ before b after, l = before ++ b :: after ∧ (∀ x ∈ before, P (f x)) ∧ Q (f b) := by
  induction l with
  | nil => simp
  | cons a l ih => rw [List.map_cons, exists_split_cons_iff, exists_split_cons_iff, ih]

namespace Enumeration

/-- At some step an enumeration gives a package. -/
def Yields (guide : Guide) (e : Enumeration) (r : Record) (p : Package) : Prop :=
  ∃ n, .ok (some p) ∈ answers guide n e r

variable {c : Catalog} {extract : List Event → Path → Except Failure (List Text)} {p : Package}
  {r : Record}

theorem yields_iff_of_next {guide : Guide} {e e' : Enumeration} {r' : Record}
    {answer : Except Failure (Option Package)} (h : next guide e r = ((answer, e'), r')) :
    Yields guide e r p ↔ answer = .ok (some p) ∨ Yields guide e' r' p := by
  constructor
  · rintro ⟨n, hn⟩
    cases n with
    | zero => exact absurd hn List.not_mem_nil
    | succ n =>
      rw [answers_succ h] at hn
      exact (List.mem_cons.1 hn).imp Eq.symm fun hn => ⟨n, hn⟩
  · rintro (rfl | ⟨n, hn⟩)
    · exact ⟨1, by rw [answers_succ h]; exact List.mem_cons_self⟩
    · exact ⟨n + 1, by rw [answers_succ h]; exact List.mem_cons_of_mem _ hn⟩

/-- Behind its end an enumeration gives no package. -/
theorem not_yields_done {guide : Guide} : ¬ Yields guide .done r p := by
  rintro ⟨n, hn⟩
  rw [answers_done] at hn
  exact nomatch List.eq_of_mem_replicate hn

/-- On its way an enumeration gives the packages of the stops, up to the first one that is
refused. -/
theorem yields_underway_iff {stops : List Stop} {rest : List Text} :
    Yields (c.guide extract) (.underway ⟨stops, rest⟩) r p ↔
      ∃ before s after, stops = before ++ s :: after ∧
        (∀ s' ∈ before, ∃ q, c.resolve s'.importPath = .ok q) ∧ c.resolve s.importPath = .ok p := by
  induction stops generalizing r with
  | nil =>
    obtain ⟨r', last, -⟩ := exists_next_end (c.guide extract) rest r
    rw [yields_iff_of_next last]
    simp [not_yields_done]
  | cons s stops ih =>
    obtain ⟨_, r', -, given, refused⟩ :=
      exists_next_stop (c.guide extract) s stops rest r
    rw [exists_split_cons_iff]
    cases hs : c.resolve s.importPath with
    | error failure =>
      -- the enumeration is over, so nothing behind this stop is given
      rw [yields_iff_of_next (refused _ hs)]
      simp [not_yields_done]
    | ok q =>
      rw [yields_iff_of_next (given _ hs), ih]
      simp

/-- **What an enumeration gives** are the packages that going through the catalog comes to. -/
theorem yields_fresh_iff :
    Yields (c.guide extract) .fresh r p ↔ ∃ importPath, c.Reaches importPath p := by
  cases hlist : c.list with
  | error failure =>
    have refused : (c.guide extract).list r.events = .error failure := hlist
    rw [yields_iff_of_next (next_fresh_of_error refused)]
    simp [not_yields_done, Catalog.Reaches, hlist]
  | ok importPaths =>
    have listed : (c.guide extract).list r.events = .ok importPaths := hlist
    have begun : ∀ n, answers (c.guide extract) n .fresh r =
        answers (c.guide extract) n (.underway (Itinerary.ofList importPaths))
          { r with events := .listed :: r.events } :=
      fun n => answers_congr (next_fresh listed)
    have underway : Yields (c.guide extract) .fresh r p ↔
        Yields (c.guide extract) (.underway (Itinerary.ofList importPaths))
          { r with events := .listed :: r.events } p := by
      simp only [Yields, begun]
    rw [underway, yields_underway_iff, ← exists_split_map_iff (f := Stop.importPath)
      (P := fun other => ∃ q, c.resolve other = .ok q) (Q := fun path => c.resolve path = .ok p),
      Scan.importPath_stops_ofList]
    constructor
    · rintro ⟨before, importPath, after, hpaths, given, hp⟩
      exact ⟨importPath, importPaths, before, after, hlist, hpaths, given, hp⟩
    · rintro ⟨importPath, listed, before, after, hlisted, hpaths, given, hp⟩
      obtain rfl : importPaths = listed := Except.ok.inj (hlist.symm.trans hlisted)
      exact ⟨before, importPath, after, hpaths, given, hp⟩

end Enumeration

/-! ## Scans -/

section scans

variable {c : Catalog} {extract : List Event → Path → Except Failure (List Text)} {f : Failure}

/-- The packages that a scan visits before it comes to some later paths. -/
theorem Survey.reaches {s : Survey} {later : List Text} (list : c.list = .ok s.importPaths)
    (paths : publicPaths s.importPaths = s.visits.map (·.importPath) ++ later)
    (resolve : ∀ v ∈ s.visits, c.resolve v.importPath = .ok v.package) {v : Visit}
    (hv : v ∈ s.visits) : c.Reaches v.importPath v.package := by
  obtain ⟨before, after, hvisits⟩ := List.append_of_mem hv
  refine ⟨s.importPaths, before.map (·.importPath), after.map (·.importPath) ++ later, list, ?_, ?_,
    resolve v hv⟩
  · rw [paths, hvisits, List.map_append, List.map_cons, List.append_assoc, List.cons_append]
  · rw [List.forall_mem_map]
    exact fun v' hv' => ⟨v'.package, resolve v' (by simp [hvisits, hv'])⟩

theorem StopsAt.eq_of_mem_said {importPath other : Text} {a : Account} {p : Package}
    (h : StopsAt f importPath a) (hp : .resolving other (.ok p) ∈ a.said) : other = importPath := by
  have files : ∀ fs : List FileVisit,
      Exchange.resolving other (.ok p) ∉ (Account.all FileVisit.account fs).said := by
    intro fs
    simp [Account.all, FileVisit.account]
  cases h <;> simp [files] at hp <;> exact hp.1

/-- A scan is given packages for no other paths than those that going through the catalog comes
to. -/
theorem Scan.reaches_of_resolving {mode : Mode} {further : List Text} {importPath : Text}
    {p : Package} (h : .resolving importPath (.ok p) ∈
      (run (c.guide extract) mode further).dialogue (c.guide extract)) :
    c.Reaches importPath p := by
  -- what the scan is told is what the catalog says, at whatever point it is asked
  have list : ∀ {importPaths}, .listing (.ok importPaths) ∈
      (run (c.guide extract) mode further).dialogue (c.guide extract) →
        c.list = .ok importPaths := by
    intro importPaths hlist
    obtain ⟨before, hbefore⟩ := Guide.list_of_mem_dialogue hlist
    exact hbefore.symm
  have resolve : ∀ {importPath p}, .resolving importPath (.ok p) ∈
      (run (c.guide extract) mode further).dialogue (c.guide extract) →
        c.resolve importPath = .ok p := by
    intro importPath p hp
    obtain ⟨before, hbefore⟩ := Guide.resolve_of_mem_dialogue hp
    exact hbefore.symm
  obtain ⟨s, survey, -, complete, hd, -⟩ | ⟨f, a, -, hb, hd, -⟩ :=
    run_course (c.guide extract) mode further
  · rw [hd] at h list resolve
    obtain h | ⟨v, hv, h | ⟨file, -, h⟩⟩ := Survey.mem_said.1 h <;> cases h
    have paths : publicPaths survey.importPaths = survey.visits.map (·.importPath) ++ [] := by
      rw [List.append_nil, complete.1]
    refine Survey.reaches (list (Survey.mem_said.2 (.inl rfl))) paths ?_ hv
    exact fun v hv => resolve (Survey.mem_said.2 (.inr ⟨v, hv, .inl rfl⟩))
  · rw [hd] at h list resolve
    cases hb with
    | unlisted => simp at h
    | within survey place later b paths complete stops =>
      rw [Account.said_append] at h list resolve
      have listed : c.list = .ok survey.importPaths :=
        list (List.mem_append_left _ (Survey.mem_said.2 (.inl rfl)))
      have visited : ∀ v ∈ survey.visits, c.resolve v.importPath = .ok v.package := fun v hv =>
        resolve (List.mem_append_left _ (Survey.mem_said.2 (.inr ⟨v, hv, .inl rfl⟩)))
      rcases List.mem_append.1 h with hs | hb
      · obtain hs | ⟨v, hv, hs | ⟨file, -, hs⟩⟩ := Survey.mem_said.1 hs <;> cases hs
        exact Survey.reaches listed paths visited hv
      · -- the scan stops at this package, but not before it is given
        obtain rfl := stops.eq_of_mem_said hb
        refine ⟨survey.importPaths, _, later, listed, paths, ?_, resolve h⟩
        rw [List.forall_mem_map]
        exact fun v hv => ⟨v.package, visited v hv⟩

end scans

/-- Where packages carry the path that was asked for, a scan adds the values of packages that are
not internal. -/
theorem Catalog.IsFaithful.run_gains {c : Catalog} {extract : Extractor} (faithful : c.IsFaithful)
    {mode : Mode} {further : List Text} {s : WordSet}
    (hs : (Scan.run (.of c extract) mode further).result = .ok s) :
    (Scan.seed mode further ∅).Gains mode
      (fun v => ∃ p, c.Offers p ∧ ¬ p.IsInternal ∧ p.Brings extract v) s := by
  obtain ⟨-, s', hs', gains⟩ | ⟨-, f, hf⟩ := Scan.run_gains c mode extract further
  · obtain rfl : s = s' := Except.ok.inj (hs.symm.trans hs')
    exact gains.congr fun v =>
      ⟨fun ⟨p, hp, hv⟩ => ⟨p, hp, faithful.not_isInternal hp, hv⟩,
        fun ⟨p, hp, _, hv⟩ => ⟨p, hp, hv⟩⟩
  · exact nomatch hs.symm.trans hf

/-! ## Catalogs that are faithful -/

namespace StaticCatalog

theorem mem_insert {path : Text} {p : Package} {packages : List (Text × Package)}
    {x : Text × Package} (h : x ∈ insert path p packages) : x = (path, p) ∨ x ∈ packages := by
  induction packages with
  | nil => exact .inl (List.mem_singleton.1 h)
  | cons q packages ih =>
    rw [insert] at h
    split at h
    · exact (List.mem_cons.1 h).imp_right (List.mem_cons_of_mem q)
    · rcases List.mem_cons.1 h with rfl | h
      · exact .inr List.mem_cons_self
      · exact (ih h).imp_right (List.mem_cons_of_mem q)

/-- What a catalog in memory holds has been put into it. -/
theorem mem_packages_ofPairs {pairs : List (Text × Package)} {x : Text × Package}
    (h : x ∈ (ofPairs pairs).packages) : x ∈ pairs := by
  have grown : ∀ (pairs done : List (Text × Package)),
      x ∈ pairs.foldl (fun done pair => insert pair.1 pair.2 done) done →
        x ∈ done ∨ x ∈ pairs := by
    intro pairs
    induction pairs with
    | nil => exact fun done h => .inl h
    | cons pair pairs ih =>
      intro done h
      rcases ih _ h with h | h
      · rcases mem_insert h with rfl | h
        · exact .inr List.mem_cons_self
        · exact .inl h
      · exact .inr (List.mem_cons_of_mem _ h)
  exact (grown pairs [] h).resolve_left List.not_mem_nil

theorem mem_of_resolve {c : StaticCatalog} {importPath : Text} {p : Package}
    (h : c.resolve importPath = .ok p) : (importPath, p) ∈ c.packages := by
  unfold resolve at h
  split at h
  · next q hq =>
    obtain ⟨before, after, hpackages, -⟩ := List.lookup_eq_some_iff.1 hq
    rw [← Except.ok.inj h, hpackages]
    exact List.mem_append_right _ List.mem_cons_self
  · cases h

/-- Packages under their own import paths make a faithful catalog. -/
theorem isFaithful_ofPairs {pairs : List (Text × Package)}
    (h : ∀ x ∈ pairs, x.2.importPath = .text x.1) : (ofPairs pairs).toCatalog.IsFaithful :=
  fun importPath p hp => h (importPath, p) (mem_packages_ofPairs (mem_of_resolve hp))

theorem isFaithful_ofPackages {packages : List Package}
    (h : ∀ p ∈ packages, ∃ t, p.importPath = .text t) :
    (ofPackages packages).toCatalog.IsFaithful := by
  refine isFaithful_ofPairs fun x hx => ?_
  obtain ⟨p, hp, rfl⟩ := List.mem_map.1 hx
  obtain ⟨t, ht⟩ := h p hp
  rw [ht]
  rfl

end StaticCatalog

theorem Package.importPath_of_ofInfo {importPath : Text} {info : List (Text × Json)} {p : Package}
    (h : ofInfo importPath info = .ok p) :
    p.importPath = (filled? (Json.member? info "ImportPath")).getD (.text importPath) := by
  unfold ofInfo at h
  split at h
  · obtain ⟨directory, -, h⟩ := Except.bind_eq_ok_iff.1 h
    split at h
    · obtain ⟨files, -, h⟩ := Except.bind_eq_ok_iff.1 h
      rw [← Except.ok.inj h]
    · rw [← Except.ok.inj h]
  · cases h

/-- A toolchain that names no other import path than the one it is asked for makes a faithful
catalog. -/
theorem Toolchain.isFaithful {t : Toolchain}
    (h : ∀ importPath info v, t.packageInfo importPath = .ok info →
      Package.filled? (Json.member? info "ImportPath") = some v → v = .text importPath) :
    t.toClient.toCatalog.IsFaithful := by
  intro importPath p hp
  obtain ⟨info, hinfo, hp⟩ := Except.bind_eq_ok_iff.1 hp
  rw [Package.importPath_of_ofInfo hp]
  cases hv : Package.filled? (Json.member? info "ImportPath") with
  | none => rfl
  | some v => exact h importPath info v hinfo hv

/-- **Internal packages stay out** as far as packages carry the import path that was asked for. An
enumeration gives the packages that going through the catalog comes to, and a scan is given no other
ones: all of them are listed under a path that is not internal, so an internal one among them carries
another path. If each carries the path it is listed under, none is internal, and a scan adds the
values of packages that are not internal only. Packages under their own import paths do, and so do
those of a toolchain that names no other path. -/
theorem Scan.internal_packages_stay_out (c : Catalog)
    (extract : List Event → Path → Except Failure (List Text)) :
    (∀ r p, Enumeration.Yields (c.guide extract) .fresh r p ↔
      ∃ importPath, c.Reaches importPath p) ∧
    (∀ mode further importPath p, .resolving importPath (.ok p) ∈
      (run (c.guide extract) mode further).dialogue (c.guide extract) →
        c.Reaches importPath p) ∧
    (∀ importPath p, c.Reaches importPath p →
      isInternal importPath = false ∧ (p.IsInternal → p.importPath ≠ .text importPath)) ∧
    ((∀ r p, Enumeration.Yields (c.guide extract) .fresh r p → ¬ p.IsInternal) ↔
      ∀ importPath p, c.Reaches importPath p → ¬ p.IsInternal) ∧
    (c.IsFaithful → (∀ importPath p, c.Reaches importPath p → ¬ p.IsInternal) ∧
      ∀ (extractor : Extractor) mode further s,
        (run (.of c extractor) mode further).result = .ok s → (seed mode further ∅).Gains mode
          (fun v => ∃ p, c.Offers p ∧ ¬ p.IsInternal ∧ p.Brings extractor v) s) ∧
    (∀ packages : List Package, (∀ p ∈ packages, ∃ t, p.importPath = .text t) →
      (StaticCatalog.ofPackages packages).toCatalog.IsFaithful) ∧
    ∀ t : Toolchain, (∀ importPath info v, t.packageInfo importPath = .ok info →
      Package.filled? (Json.member? info "ImportPath") = some v → v = .text importPath) →
      t.toClient.toCatalog.IsFaithful := by
  refine ⟨fun r p => Enumeration.yields_fresh_iff, ?_, ?_, ?_, ?_, ?_, ?_⟩
  · exact fun mode further importPath p => reaches_of_resolving
  · exact fun importPath p h => ⟨h.isInternal_eq_false, fun internal =>
      internal.importPath_ne h.isInternal_eq_false⟩
  · constructor
    · exact fun outside importPath p h =>
        outside ⟨∅, 0, []⟩ p (Enumeration.yields_fresh_iff.2 ⟨importPath, h⟩)
    · intro outside r p h
      obtain ⟨importPath, hreaches⟩ := Enumeration.yields_fresh_iff.1 h
      exact outside importPath p hreaches
  · exact fun faithful => ⟨fun importPath p h => faithful.not_isInternal h.offers,
      fun extractor mode further s => faithful.run_gains⟩
  · exact fun packages => StaticCatalog.isFaithful_ofPackages
  · exact fun t => Toolchain.isFaithful

theorem internal_packages_stay_out_of_static :
    let c := (StaticCatalog.ofPackages [formatting.toPackage, binaryInterface.toPackage]).toCatalog
    (∀ p ∈ [formatting.toPackage, binaryInterface.toPackage], ∃ t, p.importPath = .text t) ∧
    c.IsFaithful ∧ c.Reaches "fmt" formatting.toPackage ∧ binaryInterface.toPackage.IsInternal ∧
    (∀ importPath p, c.Reaches importPath p → ¬ p.IsInternal) ∧
    ∀ mode further s, (Scan.run (.of c fun _ => .ok ["Println"]) mode further).result = .ok s →
      (Scan.seed mode further ∅).Gains mode (fun v => ∃ p, c.Offers p ∧ ¬ p.IsInternal ∧
        p.Brings (fun _ => .ok ["Println"]) v) s := by
  intro c
  obtain ⟨-, -, -, -, outside, static, -⟩ :=
    Scan.internal_packages_stay_out c fun _ _ => .ok ["Println"]
  have texts : ∀ p ∈ [formatting.toPackage, binaryInterface.toPackage],
      ∃ t, p.importPath = .text t := by
    simp [Description.toPackage]
  have faithful : c.IsFaithful := static _ texts
  have listed : publicPaths ["fmt", "internal/abi"] = (["fmt"] : List Text) := by decide +kernel
  have reaches : c.Reaches "fmt" formatting.toPackage :=
    ⟨["fmt", "internal/abi"], [], [], rfl, listed, by simp, rfl⟩
  exact ⟨texts, faithful, reaches, ⟨_, rfl, by decide⟩, (outside faithful).1,
    (outside faithful).2 _⟩

/-- A catalog with an internal package under a path that is not internal. -/
def mislabelled : StaticCatalog :=
  .ofPairs [("fmt", ⟨.text "internal/fmt", Path.parse "/src/fmt", [], .text "hidden"⟩)]

/-- What is listed under another path than its own is not passed over, and adds its words. -/
theorem internal_package_contributes :
    (∀ r, ∃ p, Enumeration.Yields (mislabelled.toCatalog.guide fun _ _ => .ok []) .fresh r p ∧
      p.IsInternal) ∧
    ∃ s, (Scan.run (.of mislabelled.toCatalog fun _ => .ok []) .verbatim []).result = .ok s ∧
      Text.ofString "hidden" ∈ s ∧ Text.ofString "hidden" ∉ Scan.seed .verbatim [] ∅ := by
  have listed : publicPaths ["fmt"] = (["fmt"] : List Text) := by decide +kernel
  constructor
  · intro r
    refine ⟨⟨.text "internal/fmt", Path.parse "/src/fmt", [], .text "hidden"⟩, ?_,
      ⟨_, rfl, by decide⟩⟩
    exact Enumeration.yields_fresh_iff.2 ⟨"fmt", ["fmt"], [], [], rfl, listed, by simp, rfl⟩
  · have given : mislabelled.toCatalog.resolve "fmt" =
        .ok ⟨.text "internal/fmt", Path.parse "/src/fmt", [], .text "hidden"⟩ := rfl
    have named : mislabelled.toCatalog.IsNamed := by
      intro importPath p hp
      have hmem : (importPath, p) ∈ mislabelled.packages := StaticCatalog.mem_of_resolve hp
      obtain ⟨-, rfl⟩ := Prod.mk.inj (List.mem_singleton.1 hmem)
      exact ⟨"hidden", rfl⟩
    have readable : mislabelled.toCatalog.IsReadable fun _ => .ok [] := by
      refine ⟨["fmt"], rfl, fun importPath hpath => ?_⟩
      rw [listed] at hpath
      obtain rfl := List.mem_singleton.1 hpath
      exact ⟨_, given, nofun⟩
    obtain ⟨s, hs⟩ := (Scan.run_of_ok_iff named).2 readable
    refine ⟨s, hs, (Scan.mem_run_of named hs _).2 ⟨"hidden", ⟨by decide, rfl⟩, .inr ?_⟩, ?_⟩
    · exact ⟨_, ⟨["fmt"], rfl, "fmt", by simp [listed], given⟩, .inl rfl⟩
    · rw [Scan.mem_seed]
      rintro ⟨token, htoken, -, rfl⟩
      exact absurd htoken (by decide +kernel)

end GoLexicon
