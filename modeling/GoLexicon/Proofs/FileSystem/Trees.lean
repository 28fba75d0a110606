import GoLexicon.FileSystem.Building
import GoLexicon.Proofs.FileSystem.Locations
import GoLexicon.Proofs.Lookup
import Mathlib.Data.List.Induction
import Mathlib.Data.List.Infix
/-!
# File systems as trees

In a tree, what stands somewhere stands in a directory, under a name that can stand there
(`FileSystem.IsTree`). So all names on the way can be gone, and a walk comes to whatever stands at
its end (`FileSystem.IsTree.walk_eq_ok`).

A file system that is built up from files is a tree if none of the files stands above another one.
Its files are those it was built from, and its directories are above them (`FileSystem.IsBuilt`).
-/

namespace GoLexicon

theorem Location.mem_stations {location station : Location} :
    station ∈ location.stations ↔ station ≠ [] ∧ station <+: location := by
  induction location generalizing station with
  | nil => simp [stations]
  | cons name rest ih =>
    rw [stations, List.mem_cons, List.mem_map]
    cases station with
    | nil => simp
    | cons first station =>
      simp only [List.cons.injEq, List.cons_prefix_cons, ne_eq, reduceCtorEq, not_false_eq_true,
        true_and, ih]
      constructor
      · rintro (⟨rfl, rfl⟩ | ⟨deeper, ⟨-, hprefix⟩, rfl, rfl⟩)
        · exact ⟨rfl, List.nil_prefix⟩
        · exact ⟨rfl, hprefix⟩
      · rintro ⟨rfl, hprefix⟩
        by_cases hstation : station = []
        · exact .inl ⟨rfl, hstation⟩
        · exact .inr ⟨station, ⟨hstation, hprefix⟩, rfl, rfl⟩

namespace FileSystem

variable {fs : FileSystem} {location other : Location} {content : Bytes} {name : Text}

/-! ## What is built -/

theorem entry?_withDirectory : entry? (fs.withDirectory location) other =
    (fs.entry? other).or (if other = location then some .directory else none) := by
  unfold withDirectory
  by_cases ho : other = location
  · subst ho
    rw [if_pos rfl]
    cases h : fs.entry? other with
    | some entry => simpa using h
    | none => simpa using entry?_put_self (ne_nil_of_entry?_eq_none h)
  · rw [if_neg ho, Option.or_none]
    split
    · rfl
    · exact entry?_put_of_ne ho

/-- Directories are put where nothing stands, on the way to a location and at the location. -/
theorem entry?_withDirectories : entry? (fs.withDirectories location) other =
    (fs.entry? other).or (if other <+: location then some .directory else none) := by
  have folded : ∀ (stations : List Location) (fs : FileSystem),
      entry? (stations.foldl withDirectory fs) other =
        (fs.entry? other).or (if other ∈ stations then some .directory else none) := by
    intro stations
    induction stations with
    | nil => simp
    | cons station stations ih =>
      intro fs
      rw [List.foldl_cons, ih, entry?_withDirectory, Option.or_assoc]
      by_cases h : other = station <;> simp [h]
  rw [withDirectories, folded]
  by_cases hroot : other = []
  · rw [hroot, entry?_nil, Option.some_or, Option.some_or]
  · simp only [Location.mem_stations, ne_eq, hroot, not_false_eq_true, true_and]

theorem entry?_withFile (h : location ≠ []) : entry? (fs.withFile location content) other =
    if other = location then some (.file content)
    else (fs.entry? other).or (if other <+: location.dropLast then some .directory else none) := by
  rw [withFile, entry?_put]
  by_cases ho : other = location
  · rw [if_pos ⟨ho, h⟩, if_pos ho]
  · rw [if_neg fun h' => ho h'.1, if_neg ho, entry?_withDirectories]

theorem entry?_bare {here : Location} :
    entry? (bare here) other = if other <+: here then some .directory else none := by
  rw [bare, entry?_withDirectories]
  by_cases hroot : other = []
  · rw [hroot, entry?_nil, if_pos List.nil_prefix, Option.some_or]
  · rw [entry?_of_ne_nil hroot, List.lookup_nil, Option.none_or]

theorem here_withDirectories : (fs.withDirectories location).here = fs.here := by
  have folded : ∀ (stations : List Location) (fs : FileSystem),
      (stations.foldl withDirectory fs).here = fs.here := by
    intro stations
    induction stations with
    | nil => exact fun _ => rfl
    | cons station stations ih =>
      intro fs
      rw [List.foldl_cons, ih]
      unfold withDirectory
      split
      · rfl
      · exact here_put _ _ _
  exact folded _ fs

theorem here_withFile : (fs.withFile location content).here = fs.here := by
  rw [withFile, here_put, here_withDirectories]

/-- A directory is no file, so it does not matter where directories are put besides. -/
theorem or_eq_file_iff {entry : Option Entry} {P : Prop} [Decidable P] :
    entry.or (if P then some .directory else none) = some (.file content) ↔
      entry = some (.file content) := by
  cases entry with
  | some entry => rw [Option.some_or]
  | none => split <;> simp

/-! ## Trees -/

/-- A name under which something can stand in a directory. -/
def CanStand (name : Text) : Prop := name ≠ Path.up ∧ octetCount name ≤ nameLimit

/-- The current directory is one, and what stands somewhere stands in a directory, under a name that
can stand there. -/
structure IsTree (fs : FileSystem) : Prop where
  here : fs.entry? fs.here = some .directory
  above : ∀ location name, fs.entry? (location ++ [name]) ≠ none →
    fs.entry? location = some .directory
  name : ∀ location name, fs.entry? (location ++ [name]) ≠ none → CanStand name

namespace IsTree

/-- On the way to something there is something. -/
theorem ne_none_of_append (tree : fs.IsTree) {rest : Location}
    (h : fs.entry? (location ++ rest) ≠ none) : fs.entry? location ≠ none := by
  induction rest using List.reverseRecOn with
  | nil => rwa [List.append_nil] at h
  | append_singleton rest name ih =>
    rw [← List.append_assoc] at h
    exact ih (by simp [tree.above _ _ h])

/-- A walk comes to what stands at its end. -/
theorem walk_eq_ok (tree : fs.IsTree) {names : List Text} {entry : Entry}
    (h : fs.entry? (location ++ names) = some entry) :
    fs.walk location names = .ok (location ++ names, some entry) := by
  induction names generalizing location with
  | nil =>
    rw [List.append_nil] at h ⊢
    rw [walk, h]
  | cons name names ih =>
    rw [List.append_cons] at h ⊢
    have stands : fs.entry? (location ++ [name] ++ names) ≠ none := by
      rw [h]
      exact Option.some_ne_none entry
    have next : fs.entry? (location ++ [name]) ≠ none := tree.ne_none_of_append stands
    obtain ⟨hup, hshort⟩ := tree.name location name next
    rw [walk, tree.above location name next]
    simp only [if_neg hup, if_neg (Nat.not_lt.2 hshort)]
    exact ih h

end IsTree

theorem isTree_bare {here : Location} (names : ∀ name ∈ here, CanStand name) :
    (bare here).IsTree := by
  have onWay : ∀ location, entry? (bare here) location ≠ none → location <+: here := by
    intro location h
    rw [entry?_bare] at h
    by_contra hprefix
    exact h (if_neg hprefix)
  have hhere : (bare here).here = here := here_withDirectories
  refine ⟨?_, fun location name h => ?_, fun location name h => ?_⟩
  · rw [hhere, entry?_bare, if_pos (List.prefix_refl here)]
  · have above : location <+: here := (List.prefix_append _ _).trans (onWay _ h)
    rw [entry?_bare, if_pos above]
  · exact names name ((onWay _ h).subset (by simp))

/-- One more file in a tree: no file stands above it, and there is no directory in its place. -/
theorem isTree_withFile (tree : fs.IsTree) (inside : location ≠ [])
    (names : ∀ name ∈ location, CanStand name)
    (clear : ∀ above, above <+: location → ∀ content, fs.entry? above = some (.file content) →
      above = location)
    (free : fs.entry? location ≠ some .directory) : (fs.withFile location content).IsTree := by
  have kept : ∀ other, fs.entry? other = some .directory →
      entry? (fs.withFile location content) other = some .directory := by
    intro other h
    have ho : other ≠ location := fun ho => free (ho ▸ h)
    rw [entry?_withFile inside, if_neg ho, h, Option.some_or]
  have onWay : ∀ other, other <+: location.dropLast →
      entry? (fs.withFile location content) other = some .directory := by
    intro other h
    have ho : other ≠ location := by
      rintro rfl
      have length := h.length_le
      have pos := List.length_pos_of_ne_nil inside
      rw [List.length_dropLast] at length
      omega
    rw [entry?_withFile inside, if_neg ho, if_pos h]
    cases hentry : fs.entry? other with
    | none => rfl
    | some entry =>
      cases entry with
      | directory => rfl
      | file content =>
        exact absurd (clear other (h.trans (List.dropLast_prefix location)) content hentry) ho
  -- what stands in the new tree is the file, stood in the old one, or is on the way to the file
  have stands : ∀ other, entry? (fs.withFile location content) other ≠ none →
      other = location ∨ fs.entry? other ≠ none ∨ other <+: location.dropLast := by
    intro other h
    by_contra hnone
    simp only [not_or, not_not] at hnone
    rw [entry?_withFile inside, if_neg hnone.1, hnone.2.1, if_neg hnone.2.2] at h
    exact h rfl
  refine ⟨?_, fun above name h => ?_, fun above name h => ?_⟩
  · rw [here_withFile]
    exact kept _ tree.here
  · rcases stands _ h with rfl | h | h
    · exact onWay above (by rw [List.dropLast_concat])
    · exact kept above (tree.above above name h)
    · exact onWay above ((List.prefix_append _ _).trans h)
  · rcases stands _ h with rfl | h | h
    · exact names name (by simp)
    · exact tree.name above name h
    · exact names name (List.dropLast_subset _ (h.subset (by simp)))

/-! ## Trees that are built from files -/

/-- Files that can stand in one tree: they have names that can stand there, and none of them stands
above another one. -/
structure AreApart (files : List (Location × Bytes)) : Prop where
  inside : ∀ x ∈ files, x.1 ≠ []
  names : ∀ x ∈ files, ∀ name ∈ x.1, CanStand name
  apart : ∀ x ∈ files, ∀ y ∈ files, x.1 <+: y.1 → x.1 = y.1

/-- A tree has been built from files: they are the only ones, and of two in one place the later one
counts. The directories are those on the way to the current directory, and those above the files. -/
structure IsBuilt (here : Location) (files : List (Location × Bytes)) (fs : FileSystem) :
    Prop where
  here_eq : fs.here = here
  tree : fs.IsTree
  file_iff : ∀ location content, fs.entry? location = some (.file content) ↔
    ∃ names, location = here ++ names ∧ files.reverse.lookup names = some content
  directory : ∀ location, fs.entry? location = some .directory →
    location <+: here ∨ ∃ x ∈ files, location <+: here ++ x.1 ∧ location ≠ here ++ x.1

namespace IsBuilt

variable {here : Location} {files : List (Location × Bytes)} {x : Location × Bytes}

/-- A file that is apart from the others has no file above it, and no directory in its place. -/
theorem isClear (built : IsBuilt here files fs) (apart : AreApart (files ++ [x])) :
    (∀ above, above <+: here ++ x.1 → ∀ content, fs.entry? above = some (.file content) →
      above = here ++ x.1) ∧ fs.entry? (here ++ x.1) ≠ some .directory := by
  have last : x ∈ files ++ [x] := by simp
  constructor
  · intro above hprefix content hfile
    obtain ⟨names, rfl, hlookup⟩ := (built.file_iff above content).1 hfile
    obtain ⟨before, after, hfiles, -⟩ := List.lookup_eq_some_iff.1 hlookup
    have earlier : (names, content) ∈ files := List.mem_reverse.1 (by simp [hfiles])
    rw [List.prefix_append_right_inj] at hprefix
    have same : names = x.1 := apart.apart _ (List.mem_append_left _ earlier) _ last hprefix
    rw [same]
  · intro hdirectory
    rcases built.directory _ hdirectory with hprefix | ⟨y, hy, hprefix, hne⟩
    · have length := hprefix.length_le
      have pos := List.length_pos_of_ne_nil (apart.inside x last)
      rw [List.length_append] at length
      omega
    · rw [List.prefix_append_right_inj] at hprefix
      exact hne (congrArg _ (apart.apart _ last _ (List.mem_append_left _ hy) hprefix))

/-- One more file that is apart from the others. -/
theorem withFile (built : IsBuilt here files fs) (apart : AreApart (files ++ [x]))
    (hhere : ∀ name ∈ here, CanStand name) :
    IsBuilt here (files ++ [x]) (fs.withFile (here ++ x.1) x.2) := by
  have last : x ∈ files ++ [x] := by simp
  have inside : here ++ x.1 ≠ [] := by simp [apart.inside x last]
  obtain ⟨clear, free⟩ := built.isClear apart
  have names : ∀ name ∈ here ++ x.1, CanStand name :=
    List.forall_mem_append.2 ⟨hhere, apart.names x last⟩
  refine ⟨here_withFile.trans built.here_eq, isTree_withFile built.tree inside names clear free,
    fun location content => ?_, fun location h => ?_⟩
  · rw [entry?_withFile inside, List.reverse_append, List.reverse_singleton, List.singleton_append]
    by_cases hl : location = here ++ x.1
    · rw [if_pos hl, hl]
      constructor
      · rintro ⟨⟩
        exact ⟨x.1, rfl, by rw [List.lookup_cons_ite, if_pos rfl]⟩
      · rintro ⟨names, hnames, hlookup⟩
        rw [← List.append_cancel_left hnames, List.lookup_cons_ite, if_pos rfl] at hlookup
        rw [Option.some.inj hlookup]
    · have others : ∀ names, location = here ++ names →
          (x :: files.reverse).lookup names = files.reverse.lookup names := by
        rintro names rfl
        rw [List.lookup_cons_ite, if_neg fun h => hl (congrArg _ h)]
      rw [if_neg hl, or_eq_file_iff, built.file_iff]
      exact exists_congr fun names => and_congr_right fun h => by rw [others names h]
  · by_cases hl : location = here ++ x.1
    · rw [entry?_withFile inside, if_pos hl] at h
      cases h
    · rw [entry?_withFile inside, if_neg hl] at h
      by_cases hprefix : location <+: (here ++ x.1).dropLast
      · exact .inr ⟨x, last, hprefix.trans (List.dropLast_prefix _), hl⟩
      · rw [if_neg hprefix, Option.or_none] at h
        exact (built.directory _ h).imp_right fun ⟨y, hy, hy'⟩ =>
          ⟨y, List.mem_append_left _ hy, hy'⟩

end IsBuilt

/-- What is built from files that are apart is a tree of them. -/
theorem isBuilt_ofFiles {here : Location} {files : List (Location × Bytes)}
    (hhere : ∀ name ∈ here, CanStand name) (apart : AreApart files) :
    IsBuilt here files (ofFiles here files) := by
  induction files using List.reverseRecOn with
  | nil =>
    refine ⟨here_withDirectories, isTree_bare hhere, fun location content => ?_,
      fun location h => ?_⟩
    · change entry? (bare here) location = _ ↔ _
      rw [entry?_bare]
      simp
    · change entry? (bare here) location = _ at h
      rw [entry?_bare] at h
      by_contra hnone
      rw [if_neg fun hprefix => hnone (.inl hprefix)] at h
      cases h
  | append_singleton files x ih =>
    have earlier : AreApart files :=
      ⟨fun y hy => apart.inside y (List.mem_append_left _ hy),
        fun y hy => apart.names y (List.mem_append_left _ hy),
        fun y hy z hz => apart.apart y (List.mem_append_left _ hy) z (List.mem_append_left _ hz)⟩
    have grown : ofFiles here (files ++ [x]) = (ofFiles here files).withFile (here ++ x.1) x.2 := by
      rw [ofFiles, ofFiles, List.foldl_append]
      rfl
    rw [grown]
    exact (ih earlier).withFile apart hhere

end FileSystem

end GoLexicon
