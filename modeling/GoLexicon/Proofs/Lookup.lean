import Mathlib.Data.List.Basic
import Mathlib.Data.List.Nodup
import Mathlib.Data.List.Perm.Basic
/-!
# Values under keys

A list of values under keys that are all different: each value is found under its key
(`lookup_eq_some_iff_mem`, `lookup_map_of_mem`), in whatever order the list is (`lookup_eq_of_perm`)
and also where other keys have no values (`lookup_filterMap`), and a list that is put together one
value at a time keeps the order in which they came (`foldl_eq_append`).
-/

namespace List

variable {κ ν : Type} {k : κ} {v : ν} {l l' : List (κ × ν)}

section lookup

variable [BEq κ] [LawfulBEq κ]

theorem lookup_cons_ite [DecidableEq κ] (p : κ × ν) (l : List (κ × ν)) (k : κ) :
    (p :: l).lookup k = if k = p.1 then some p.2 else l.lookup k := by
  rw [lookup_cons]
  by_cases hk : k = p.1
  · rw [if_pos hk, beq_iff_eq.2 hk]
  · rw [if_neg hk, beq_eq_false_iff_ne.2 hk]

theorem lookup_eq_some_iff_mem (distinct : (l.map (·.1)).Nodup) :
    l.lookup k = some v ↔ (k, v) ∈ l := by
  induction l with
  | nil => simp
  | cons p l ih =>
    obtain ⟨k', v'⟩ := p
    obtain ⟨hnew, hrest⟩ := List.nodup_cons.1 distinct
    rw [lookup_cons, mem_cons]
    by_cases hk : k = k'
    · subst hk
      have absent : (k, v) ∉ l := fun h => hnew (mem_map.2 ⟨(k, v), h, rfl⟩)
      simp [absent, eq_comm]
    · have other : (k == k') = false := beq_eq_false_iff_ne.2 hk
      simp [hk, other, ih hrest]

theorem lookup_eq_none_iff_not_mem : l.lookup k = none ↔ k ∉ l.map (·.1) := by
  rw [List.lookup_eq_none_iff, mem_map]
  constructor
  · rintro h ⟨p, hp, rfl⟩
    simpa using h p hp
  · intro h p hp
    exact bne_iff_ne.2 fun hk => h ⟨p, hp, hk.symm⟩

theorem lookup_map_of_mem {α : Type} {as : List α} {key : α → κ} (distinct : (as.map key).Nodup)
    (value : α → ν) {a : α} (ha : a ∈ as) :
    (as.map fun a => (key a, value a)).lookup (key a) = some (value a) := by
  have keys : ((as.map fun a => (key a, value a)).map (·.1)).Nodup := by
    rw [map_map]
    exact distinct
  exact (lookup_eq_some_iff_mem keys).2 (mem_map.2 ⟨a, ha, rfl⟩)

theorem lookup_eq_of_perm (distinct : (l.map (·.1)).Nodup) (h : l.Perm l') (k : κ) :
    l'.lookup k = l.lookup k := by
  have distinct' : (l'.map (·.1)).Nodup := (h.map _).nodup_iff.1 distinct
  refine Option.ext fun v => ?_
  rw [lookup_eq_some_iff_mem distinct', lookup_eq_some_iff_mem distinct, h.mem_iff]

/-- Among values that may be missing, those that are there are found. -/
theorem lookup_filterMap {l : List (κ × Option ν)} (distinct : (l.map (·.1)).Nodup) :
    (l.filterMap fun p => p.2.map (p.1, ·)).lookup k = (l.lookup k).join := by
  induction l with
  | nil => rfl
  | cons p l ih =>
    obtain ⟨k', v⟩ := p
    obtain ⟨hnew, hrest⟩ := List.nodup_cons.1 distinct
    rw [lookup_cons]
    by_cases hk : k = k'
    · subst hk
      have absent : l.lookup k = none := lookup_eq_none_iff_not_mem.2 hnew
      cases v <;> simp [ih hrest, absent]
    · have other : (k == k') = false := beq_eq_false_iff_ne.2 hk
      cases v <;> simp [lookup_cons, other, ih hrest]

end lookup

theorem map_fst_filterMap_sublist (l : List (κ × Option ν)) :
    ((l.filterMap fun p => p.2.map (p.1, ·)).map (·.1)).Sublist (l.map (·.1)) := by
  induction l with
  | nil => exact .slnil
  | cons p l ih =>
    obtain ⟨k, v⟩ := p
    cases v with
    | none => exact ih.cons k
    | some v => exact ih.cons_cons k

/-- Values under different keys keep their order where each is put behind the others. -/
theorem foldl_eq_append {put : κ × ν → List (κ × ν) → List (κ × ν)}
    (hput : ∀ p done, p.1 ∉ done.map (·.1) → put p done = done ++ [p])
    (distinct : (l.map (·.1)).Nodup) : l.foldl (fun done p => put p done) [] = l := by
  have grow : ∀ rest done : List (κ × ν), ((done ++ rest).map (·.1)).Nodup →
      rest.foldl (fun done p => put p done) done = done ++ rest := by
    intro rest
    induction rest with
    | nil => intro done _; rw [append_nil, foldl_nil]
    | cons p rest ih =>
      intro done hdone
      have new : p.1 ∉ done.map (·.1) := by
        rw [map_append, map_cons] at hdone
        exact fun h => (nodup_append.1 hdone).2.2 _ h _ mem_cons_self rfl
      rw [append_cons] at hdone ⊢
      rw [foldl_cons, hput p done new]
      exact ih _ hdone
  rw [grow l [] distinct, nil_append]

end List
