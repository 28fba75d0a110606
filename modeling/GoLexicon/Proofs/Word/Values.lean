import GoLexicon.Proofs.Word.Membership
import GoLexicon.Word.Report
/-!
# Values from outside in a set of words

A value that is no text and says something (`Json.isOther`) is a member of its own kind. A set keeps
one member for all values that are equal to it, so which of them it holds shows the order in which
they came. What is found in it does not show this (`WordSet.HasOther`), and neither does whether it
holds such a value at all (`WordSet.addValue_of_isOther`).

The report of a set has its words in order if there is no such value in it
(`WordSet.report_of_others`). A set that holds words and such values has no report
(`WordSet.report_eq_ok_iff`).
-/

namespace GoLexicon

/-! ## Equal values -/

theorem Binary64.same_iff {x y : Binary64} :
    x.same y = true ↔ (x = y ∧ x ≠ .nan) ∨ (x.isZero = true ∧ y.isZero = true) := by
  cases x <;> cases y <;> simp [same, isZero]

theorem Binary64.same_trans {x y z : Binary64} (h : x.same y = true) (h' : y.same z = true) :
    x.same z = true := by
  rw [same_iff] at h h' ⊢
  rcases h with ⟨rfl, -⟩ | ⟨hx, hy⟩
  · exact h'
  · rcases h' with ⟨rfl, -⟩ | ⟨-, hz⟩
    · exact .inr ⟨hx, hy⟩
    · exact .inr ⟨hx, hz⟩

namespace Json

variable {u v w : Json}

/-- Is a value no text, and does it say something? -/
def isOther : Json → Bool
  | text _ => false
  | v => v.isFilled

theorem ne_text_of_isOther (h : v.isOther = true) (t : Text) : v ≠ text t := by
  rintro rfl
  cases h

theorem isOther_of_ne_text (h : ∀ t : Text, v ≠ text t) : v.isOther = v.isFilled := by
  cases v with
  | text t => exact absurd rfl (h t)
  | _ => rfl

theorem isFilled_of_isOther (h : v.isOther = true) : v.isFilled = true := by
  rw [← isOther_of_ne_text (ne_text_of_isOther h), h]

/-- Equal values are the same, or count as the same number. -/
theorem eq_or_count_of_sameScalar (h : u.sameScalar v = true) : u = v ∨
    (∃ n, u.count? = some (.inl n) ∧ v.count? = some (.inl n)) ∨
    ∃ x y, u.count? = some (.inr x) ∧ v.count? = some (.inr y) ∧ x.same y = true := by
  unfold sameScalar at h
  split at h
  · exact .inl rfl
  · exact .inl (congrArg text (of_decide_eq_true h))
  · split at h
    · next n m hu hv =>
      obtain rfl : n = m := of_decide_eq_true h
      exact .inr (.inl ⟨n, hu, hv⟩)
    · next x y hu hv => exact .inr (.inr ⟨x, y, hu, hv, h⟩)
    · cases h

theorem sameScalar_of_integer {n : Int} (hu : u.count? = some (.inl n))
    (hv : v.count? = some (.inl n)) : u.sameScalar v = true := by
  unfold sameScalar
  split
  · rfl
  · cases hu
  · simp [hu, hv]

theorem sameScalar_of_number {x y : Binary64} (hu : u.count? = some (.inr x))
    (hv : v.count? = some (.inr y)) (h : x.same y = true) : u.sameScalar v = true := by
  unfold sameScalar
  split
  · rfl
  · cases hu
  · simp [hu, hv, h]

theorem sameScalar_trans (h : u.sameScalar v = true) (h' : v.sameScalar w = true) :
    u.sameScalar w = true := by
  rcases eq_or_count_of_sameScalar h with rfl | ⟨n, hu, hv⟩ | ⟨x, y, hu, hv, hxy⟩
  · exact h'
  · rcases eq_or_count_of_sameScalar h' with rfl | ⟨m, hv', hw⟩ | ⟨y, z, hv', -⟩
    · exact h
    · cases hv.symm.trans hv'
      exact sameScalar_of_integer hu hw
    · cases hv.symm.trans hv'
  · rcases eq_or_count_of_sameScalar h' with rfl | ⟨m, hv', -⟩ | ⟨y', z, hv', hw, hyz⟩
    · exact h
    · cases hv.symm.trans hv'
    · cases hv.symm.trans hv'
      exact sameScalar_of_number hu hw (Binary64.same_trans hxy hyz)

end Json

namespace WordSet

variable {s t : WordSet} {v : Json}

/-! ## What is found in a set -/

/-- A set has a member that is no text and equal to a value. -/
def HasOther (s : WordSet) (u : Json) : Prop := ∃ v ∈ s.others, v.sameScalar u = true

theorem any_others {u : Json} : s.others.any (·.sameScalar u) = true ↔ s.HasOther u :=
  List.any_eq_true

theorem addValue_of_isFit (other : v.isOther = true) (fit : isFit v = true) : s.addValue v =
    if s.others.any (·.sameScalar v) then .ok s else .ok { s with others := s.others ++ [v] } := by
  have filled : v.isFilled = true := Json.isFilled_of_isOther other
  unfold addValue
  split
  · next w => exact absurd rfl (Json.ne_text_of_isOther other w)
  · simp [filled, fit]

/-- A value that is added is found, with all that are equal to it. -/
theorem addValue_of_isOther (other : v.isOther = true) (fit : isFit v = true) :
    ∃ t, s.addValue v = .ok t ∧ t.words = s.words ∧ t.others ≠ [] ∧
      ∀ u, t.HasOther u ↔ s.HasOther u ∨ v.sameScalar u = true := by
  rw [addValue_of_isFit other fit]
  by_cases h : s.others.any (·.sameScalar v) = true
  · -- what is equal to the value is equal to the member that stands for it
    obtain ⟨member, hmember, hv⟩ := any_others.1 h
    refine ⟨s, if_pos h, rfl, List.ne_nil_of_mem hmember, fun u => ⟨.inl, ?_⟩⟩
    rintro (hu | hu)
    · exact hu
    · exact ⟨member, hmember, Json.sameScalar_trans hv hu⟩
  · refine ⟨{ s with others := s.others ++ [v] }, if_neg h, rfl, by simp, fun u => ?_⟩
    simp only [HasOther, List.mem_append, List.mem_singleton, or_and_right, exists_or,
      exists_eq_left]

theorem addValue_of_not_isOther (h : v.isOther = false) (hv : ∀ w : Text, v ≠ .text w) :
    s.addValue v = .ok s := by
  have empty : v.isFilled = false := by rw [← Json.isOther_of_ne_text hv, h]
  unfold addValue
  split
  · next w => exact absurd rfl (hv w)
  · simp [empty]

theorem addValue_of_not_isFit (other : v.isOther = true) (h : isFit v = false) :
    s.addValue v = .error (unfit v) := by
  have filled : v.isFilled = true := Json.isFilled_of_isOther other
  unfold addValue
  split
  · next w => exact absurd rfl (Json.ne_text_of_isOther other w)
  · simp [filled, h]

/-- It makes no difference whether a value is added before some words or behind them. -/
theorem addValue_addAll (s : WordSet) (ws : List Text) (v : Json) :
    (s.addAll ws).addValue v = (s.addValue v).map (·.addAll ws) := by
  by_cases text : ∃ w : Text, v = .text w
  · obtain ⟨w, rfl⟩ := text
    exact congrArg Except.ok (addAll_comm s ws [w])
  cases other : v.isOther with
  | false =>
    have hv : ∀ w : Text, v ≠ .text w := fun w hw => text ⟨w, hw⟩
    rw [addValue_of_not_isOther other hv, addValue_of_not_isOther other hv]
    rfl
  | true =>
    cases fit : isFit v with
    | false =>
      rw [addValue_of_not_isFit other fit, addValue_of_not_isFit other fit]
      rfl
    | true =>
      rw [addValue_of_isFit other fit, addValue_of_isFit other fit, others_addAll]
      split
      · rfl
      · let t : WordSet := { s with others := s.others ++ [v] }
        apply congrArg Except.ok
        apply ext_mem
        · intro w
          change w ∈ s.addAll ws ↔ w ∈ t.addAll ws
          rw [mem_addAll, mem_addAll]
          rfl
        · exact (others_addAll (s := t) ws).symm

theorem mem_others_of_addValue {u : Json} (h : s.addValue v = .ok t) (hu : u ∈ t.others) :
    u ∈ s.others ∨ u = v ∧ v.isOther = true := by
  by_cases text : ∃ w : Text, v = .text w
  · obtain ⟨w, rfl⟩ := text
    obtain rfl : s.add w = t := Except.ok.inj h
    exact .inl (others_add (s := s) ▸ hu)
  cases other : v.isOther with
  | false =>
    rw [addValue_of_not_isOther other fun w hw => text ⟨w, hw⟩] at h
    exact .inl (Except.ok.inj h ▸ hu)
  | true =>
    cases fit : isFit v with
    | false =>
      rw [addValue_of_not_isFit other fit] at h
      cases h
    | true =>
      rw [addValue_of_isFit other fit] at h
      split at h
      · exact .inl (Except.ok.inj h ▸ hu)
      · obtain rfl := Except.ok.inj h
        exact (List.mem_append.1 hu).imp_right fun hv => ⟨List.mem_singleton.1 hv, rfl⟩

theorem hasValue_congr (hwords : ∀ w, w ∈ s ↔ w ∈ t) (hothers : ∀ u, s.HasOther u ↔ t.HasOther u)
    (v : Json) : s.hasValue v = t.hasValue v := by
  unfold hasValue
  split
  · next w => rw [decide_eq_decide.2 (hwords w)]
  · have same : s.others.any (·.sameScalar v) = t.others.any (·.sameScalar v) := by
      rw [Bool.eq_iff_iff, any_others, any_others, hothers]
    rw [same]

/-! ## Sorted lists and reports -/

theorem sorted_of_others (h : s.others = []) : s.sorted = .ok (s.words.map .text) := by
  unfold sorted
  rw [h]

theorem report_of_others (h : s.others = []) :
    s.report = .ok (s.words.map .text, render s.words) := by
  have hplain : (s.words.map Json.text).map (·.plain) = s.words := by
    rw [List.map_map]
    exact List.map_id s.words
  rw [report, sorted_of_others h]
  change Except.ok (s.words.map Json.text, render ((s.words.map Json.text).map (·.plain))) = _
  rw [hplain]

/-- A member that is no text cannot be put in order with words. -/
theorem exists_sorted_eq_error (hwords : s.words ≠ []) (hothers : s.others ≠ []) :
    ∃ fault, s.sorted = .error fault := by
  obtain ⟨w, ws, hwords⟩ := List.exists_cons_of_ne_nil hwords
  obtain ⟨v, vs, hothers⟩ := List.exists_cons_of_ne_nil hothers
  rw [sorted, hwords, hothers]
  exact ⟨_, rfl⟩

theorem sorted_eq_ok_iff {vs : List Json} (hne : s.words ≠ []) :
    s.sorted = .ok vs ↔ s.others = [] ∧ vs = s.words.map .text := by
  by_cases h : s.others = []
  · rw [sorted_of_others h, Except.ok.injEq]
    simp [h, eq_comm]
  · obtain ⟨fault, hfault⟩ := exists_sorted_eq_error hne h
    simp [hfault, h]

theorem report_eq_ok_iff {shown : List Json × Text} (hne : s.words ≠ []) :
    s.report = .ok shown ↔ s.others = [] ∧ shown = (s.words.map .text, render s.words) := by
  by_cases h : s.others = []
  · rw [report_of_others h, Except.ok.injEq]
    simp [h, eq_comm]
  · obtain ⟨fault, hfault⟩ := exists_sorted_eq_error hne h
    have refused : s.report = .error fault := by
      rw [report, hfault]
      rfl
    simp [refused, h]

end WordSet

end GoLexicon
