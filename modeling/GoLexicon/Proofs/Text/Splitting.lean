import GoLexicon.Text.Basic
/-!
# Cutting a text where it was put together

Parts without the separator come back when the text that they make up is cut at it: `splitAt_joined`
if the separator stands between neighbours, `splitAt_ended` if it stands behind each part, where an
empty part is left at the end.
-/

namespace GoLexicon.Text

variable {separator : CodePoint} {part rest : Text} {parts : List Text}

theorem splitAt_of_not_mem (h : separator ∉ part) : splitAt separator part = [part] := by
  induction part with
  | nil => rfl
  | cons c part ih =>
    have hc : c ≠ separator := (List.ne_of_not_mem_cons h).symm
    rw [splitAt, if_neg hc, ih (List.not_mem_of_not_mem_cons h)]

/-- The first part ends at the first separator. -/
theorem splitAt_append (h : separator ∉ part) :
    splitAt separator (part ++ separator :: rest) = part :: splitAt separator rest := by
  induction part with
  | nil => simp [splitAt]
  | cons c part ih =>
    have hc : c ≠ separator := (List.ne_of_not_mem_cons h).symm
    rw [List.cons_append, splitAt, if_neg hc, ih (List.not_mem_of_not_mem_cons h)]

theorem joined_cons_cons (first second : Text) :
    joined [separator] (first :: second :: parts) =
      first ++ separator :: joined [separator] (second :: parts) := by
  rw [joined, List.intercalate_cons_cons, List.append_assoc, List.singleton_append]
  rfl

theorem splitAt_joined (hne : parts ≠ []) (h : ∀ p ∈ parts, separator ∉ p) :
    splitAt separator (joined [separator] parts) = parts := by
  induction parts with
  | nil => exact absurd rfl hne
  | cons first parts ih =>
    have hfirst : separator ∉ first := h first (by simp)
    cases parts with
    | nil =>
      rw [joined, List.intercalate_singleton]
      exact splitAt_of_not_mem hfirst
    | cons second parts =>
      have hparts : ∀ p ∈ second :: parts, separator ∉ p := fun p hp => h p (by simp [hp])
      rw [joined_cons_cons, splitAt_append hfirst, ih (by simp) hparts]

theorem splitAt_ended (h : ∀ p ∈ parts, separator ∉ p) :
    splitAt separator (parts.flatMap (· ++ [separator])) = parts ++ [[]] := by
  induction parts with
  | nil => rfl
  | cons first parts ih =>
    have hfirst : separator ∉ first := h first (by simp)
    have hparts : ∀ p ∈ parts, separator ∉ p := fun p hp => h p (by simp [hp])
    rw [List.flatMap_cons, List.append_assoc, List.singleton_append, splitAt_append hfirst,
      ih hparts, List.cons_append]

/-- What is in a joined text is the separator, or in one of its parts. -/
theorem mem_joined {c : CodePoint} (h : c ∈ joined [separator] parts) :
    c = separator ∨ ∃ p ∈ parts, c ∈ p := by
  induction parts with
  | nil => simp [joined] at h
  | cons first parts ih =>
    cases parts with
    | nil =>
      rw [joined, List.intercalate_singleton] at h
      exact .inr ⟨first, by simp, h⟩
    | cons second parts =>
      rw [joined_cons_cons, List.mem_append, List.mem_cons] at h
      rcases h with h | h | h
      · exact .inr ⟨first, by simp, h⟩
      · exact .inl h
      · obtain hc | ⟨p, hp, hc⟩ := ih h
        · exact .inl hc
        · exact .inr ⟨p, by simp [hp], hc⟩

/-- A joined text holds its parts. -/
theorem mem_joined_of_mem {separators : Text} {c : CodePoint} (hpart : part ∈ parts)
    (hc : c ∈ part) : c ∈ joined separators parts := by
  induction parts with
  | nil => exact absurd hpart List.not_mem_nil
  | cons first parts ih =>
    cases parts with
    | nil =>
      rw [joined, List.intercalate_singleton]
      rwa [← List.mem_singleton.1 hpart]
    | cons second parts =>
      rw [joined, List.intercalate_cons_cons]
      rcases List.mem_cons.1 hpart with rfl | hpart
      · simp [hc]
      · exact List.mem_append_right _ (ih hpart)

end GoLexicon.Text
