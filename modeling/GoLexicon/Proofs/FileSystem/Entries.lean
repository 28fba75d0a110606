import GoLexicon.FileSystem.Basic
import Mathlib.Data.List.Basic
/-!
# What stands where in a file system

An operation on a location is felt there and nowhere else: `entry?_put` and `entry?_remove` say what
stands at each location afterwards. A walk along names without `..` meets the locations on the way
to its end, so it is not changed by what happens elsewhere (`walk_of_agree`).
-/

namespace GoLexicon.FileSystem

/-! ## Single entries -/

section lookup

variable {entries : List (Location × Entry)} {location other : Location} {entry : Entry}

theorem lookup_cons_self : ((location, entry) :: entries).lookup location = some entry := by
  simp

theorem lookup_cons_of_ne (h : other ≠ location) :
    ((location, entry) :: entries).lookup other = entries.lookup other := by
  rw [List.lookup_cons, beq_false_of_ne h]

theorem lookup_filter_ne : (entries.filter fun (at', _) => at' ≠ location).lookup other =
    if other = location then none else entries.lookup other := by
  induction entries with
  | nil => simp
  | cons e rest ih =>
    obtain ⟨k, v⟩ := e
    by_cases hk : k = location
    · rw [List.filter_cons_of_neg (by simp [hk]), ih]
      split
      · rfl
      · next ho => rw [lookup_cons_of_ne (hk ▸ ho)]
    · rw [List.filter_cons_of_pos (by simp [hk])]
      by_cases ho : other = k
      · rw [ho, lookup_cons_self, lookup_cons_self, if_neg hk]
      · rw [lookup_cons_of_ne ho, lookup_cons_of_ne ho, ih]

theorem lookup_map_replace :
    (entries.map fun (at', old) => (at', if at' = location then entry else old)).lookup other =
      (entries.lookup other).map fun old => if other = location then entry else old := by
  induction entries with
  | nil => rfl
  | cons e rest ih =>
    obtain ⟨k, v⟩ := e
    rw [List.map_cons]
    by_cases ho : other = k
    · rw [ho, lookup_cons_self, lookup_cons_self, Option.map_some]
    · rw [lookup_cons_of_ne ho, lookup_cons_of_ne ho, ih]

theorem length_filter_eq_iff : (entries.filter fun (at', _) => at' ≠ location).length =
    entries.length ↔ entries.lookup location = none := by
  rw [List.length_filter_eq_length_iff, List.lookup_eq_none_iff]
  simp only [ne_eq, decide_not, Bool.not_eq_true', decide_eq_false_iff_not, bne_iff_ne]
  exact forall₂_congr fun _ _ => not_congr eq_comm

end lookup

variable {fs : FileSystem} {location other : Location} {entry : Entry}

theorem entry?_nil (fs : FileSystem) : fs.entry? [] = some .directory := rfl

theorem entry?_of_ne_nil (h : location ≠ []) :
    fs.entry? location = fs.entries.lookup location := if_neg h

theorem entry?_put : entry? (fs.put location entry) other =
    if other = location ∧ location ≠ [] then some entry else fs.entry? other := by
  by_cases hroot : other = []
  · subst hroot
    rw [if_neg fun h => h.2 h.1.symm, entry?_nil, entry?_nil]
  rw [entry?_of_ne_nil hroot, entry?_of_ne_nil hroot, put]
  split
  · next h =>
    have absent := length_filter_eq_iff.1 h
    rw [List.lookup_append]
    by_cases ho : other = location
    · subst ho
      rw [absent, lookup_cons_self, if_pos ⟨rfl, hroot⟩]
      rfl
    · rw [lookup_cons_of_ne ho, if_neg fun h => ho h.1]
      simp
  · next h =>
    rw [lookup_map_replace]
    by_cases ho : other = location
    · subst ho
      obtain ⟨old, hold⟩ := Option.ne_none_iff_exists'.1 (mt length_filter_eq_iff.2 h)
      simp [hold, hroot]
    · simp [ho]

theorem entry?_put_self (h : location ≠ []) :
    entry? (fs.put location entry) location = some entry := by
  rw [entry?_put, if_pos ⟨rfl, h⟩]

theorem entry?_put_of_ne (h : other ≠ location) :
    entry? (fs.put location entry) other = fs.entry? other := by
  rw [entry?_put, if_neg fun h' => h h'.1]

theorem entry?_remove : entry? (fs.remove location) other =
    if other = location ∧ location ≠ [] then none else fs.entry? other := by
  by_cases hroot : other = []
  · subst hroot
    rw [if_neg fun h => h.2 h.1.symm, entry?_nil, entry?_nil]
  rw [entry?_of_ne_nil hroot, entry?_of_ne_nil hroot, remove, lookup_filter_ne]
  by_cases ho : other = location
  · rw [if_pos ho, if_pos ⟨ho, ho ▸ hroot⟩]
  · rw [if_neg ho, if_neg fun h => ho h.1]

theorem entry?_remove_self (h : location ≠ []) : entry? (fs.remove location) location = none := by
  rw [entry?_remove, if_pos ⟨rfl, h⟩]

theorem entry?_remove_of_ne (h : other ≠ location) :
    entry? (fs.remove location) other = fs.entry? other := by
  rw [entry?_remove, if_neg fun h' => h h'.1]

theorem ne_nil_of_entry?_eq_none (h : fs.entry? location = none) : location ≠ [] := by
  rintro rfl
  cases h

/-! ## Walks -/

/-- A walk along names without `..` ends where the names lead. -/
theorem walk_eq_ok {names : List Text} (settled : Path.up ∉ names) {found : Location}
    {e : Option Entry} (h : fs.walk location names = .ok (found, e)) :
    found = location ++ names ∧ e = fs.entry? found := by
  induction names generalizing location with
  | nil =>
    obtain ⟨rfl, rfl⟩ := Prod.mk.inj (Except.ok.inj h)
    exact ⟨(List.append_nil _).symm, rfl⟩
  | cons name rest ih =>
    have hname : name ≠ Path.up := (List.ne_of_not_mem_cons settled).symm
    have hrest : Path.up ∉ rest := List.not_mem_of_not_mem_cons settled
    rw [walk] at h
    split at h
    · cases h
    · cases h
    · rw [if_neg hname] at h
      split at h
      · cases h
      · obtain ⟨hfound, he⟩ := ih hrest h
        exact ⟨by simp [hfound], he⟩

/-- How far a walk along names without `..` comes depends on nothing but what stands on the way,
and its end is what stands there. -/
theorem walk_of_agree {fs' : FileSystem} {names : List Text} (settled : Path.up ∉ names)
    (h : ∀ passed, passed <+: names → passed ≠ names →
      fs'.entry? (location ++ passed) = fs.entry? (location ++ passed)) :
    fs'.walk location names =
      (fs.walk location names).map fun (found, _) => (found, fs'.entry? found) := by
  induction names generalizing location with
  | nil => rfl
  | cons name rest ih =>
    have hname : name ≠ Path.up := (List.ne_of_not_mem_cons settled).symm
    have hrest : Path.up ∉ rest := List.not_mem_of_not_mem_cons settled
    have here := h [] List.nil_prefix (List.cons_ne_nil _ _).symm
    rw [List.append_nil] at here
    have further : fs'.walk (location ++ [name]) rest =
        (fs.walk (location ++ [name]) rest).map fun (found, _) => (found, fs'.entry? found) := by
      refine ih hrest fun passed hpassed hne => ?_
      have hthere := h (name :: passed) ((List.prefix_cons_inj name).2 hpassed)
        fun heq => hne (List.cons.inj heq).2
      rwa [List.append_cons] at hthere
    rw [walk, walk, here, if_neg hname, if_neg hname, further]
    split
    · rfl
    · rfl
    · split <;> rfl

end GoLexicon.FileSystem
