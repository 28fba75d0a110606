import GoLexicon.Text.Lines
/-!
# Lines

How the lines of a text are cut off one after the other. A line goes on up to the next line end
(`Text.linesFrom_append`), and the line behind it begins anew (`Text.exists_linesFrom_end`). To write
each line end as a line feed changes no line (`Text.lines_unifyNewlines`).
-/

namespace GoLexicon

namespace CodePoint

variable {c : CodePoint}

theorem ne_return_of_not_endsLine (h : c.endsLine = false) : c ≠ ofChar '\r' := by
  rintro rfl
  exact absurd h (by decide)

end CodePoint

namespace Text

variable {c : CodePoint} {line : Option Text} {l t u w : Text}

/-! ## Line ends of two characters -/

/-- What is behind a line that ends with a carriage return: a line feed belongs to the line end. -/
def behindReturn : Text → Text
  | [] => []
  | d :: rest => if d = '\n' then rest else d :: rest

theorem length_behindReturn_le (t : Text) : (behindReturn t).length ≤ t.length := by
  unfold behindReturn
  split
  · exact Nat.le_refl _
  · split
    · exact Nat.le_succ _
    · exact Nat.le_refl _

theorem unifyNewlines_cons (h : c ≠ '\r') : unifyNewlines (c :: t) = c :: unifyNewlines t := by
  rw [unifyNewlines.eq_def]
  simp [h]

theorem unifyNewlines_return (t : Text) : unifyNewlines (CodePoint.ofChar '\r' :: t) =
    CodePoint.ofChar '\n' :: unifyNewlines (behindReturn t) := by
  cases t with
  | nil => rfl
  | cons d u =>
    rw [unifyNewlines.eq_def, behindReturn]
    by_cases hd : d = '\n' <;> simp [hd]

/-- A carriage return becomes a line feed, or goes away in front of one. -/
theorem unifyNewlines_return_cases (t : Text) :
    unifyNewlines (CodePoint.ofChar '\r' :: t) = unifyNewlines t ∨
      unifyNewlines (CodePoint.ofChar '\r' :: t) = CodePoint.ofChar '\n' :: unifyNewlines t := by
  rw [unifyNewlines_return]
  cases t with
  | nil => exact .inr rfl
  | cons d u =>
    rw [behindReturn]
    split
    · next hd =>
      rw [hd, unifyNewlines_cons (by decide)]
      exact .inl rfl
    · exact .inr rfl

theorem unifyNewlines_append (h : CodePoint.ofChar '\r' ∉ u) :
    unifyNewlines (u ++ t) = u ++ unifyNewlines t := by
  induction u with
  | nil => rfl
  | cons c u ih =>
    rw [List.cons_append, unifyNewlines_cons (List.ne_of_not_mem_cons h).symm,
      ih (List.not_mem_of_not_mem_cons h), List.cons_append]

/-! ## Cutting a text into lines -/

theorem linesFrom_cons (h : c.endsLine = false) :
    linesFrom line (c :: t) = linesFrom (some (c :: line.getD [])) t := by
  rw [linesFrom.eq_def]
  cases line <;> simp [CodePoint.ne_return_of_not_endsLine h, h]

theorem linesFrom_cons_of_endsLine (h : c.endsLine = true) (hc : c ≠ '\r') :
    linesFrom line (c :: t) = (line.getD []).reverse :: linesFrom none t := by
  rw [linesFrom.eq_def]
  cases line <;> simp [hc, h]

theorem linesFrom_return (t : Text) : linesFrom line (CodePoint.ofChar '\r' :: t) =
    (line.getD []).reverse :: linesFrom none (behindReturn t) := by
  cases t with
  | nil => cases line <;> rfl
  | cons d u =>
    rw [linesFrom.eq_def, behindReturn]
    by_cases hd : d = '\n' <;> cases line <;> simp [hd]

/-- A line end ends the line, and the next line begins behind it. -/
theorem exists_linesFrom_end (h : c.endsLine = true) (t : Text) :
    ∃ u, (u = t ∨ u = behindReturn t) ∧
      ∀ line, linesFrom line (c :: t) = (line.getD []).reverse :: lines u := by
  by_cases hc : c = '\r'
  · exact ⟨behindReturn t, .inr rfl, fun line => hc ▸ linesFrom_return t⟩
  · exact ⟨t, .inl rfl, fun line => linesFrom_cons_of_endsLine h hc⟩

theorem linesFrom_unifyNewlines (t : Text) (line : Option Text) :
    linesFrom line (unifyNewlines t) = linesFrom line t := by
  cases t with
  | nil => rfl
  | cons c t =>
    by_cases hc : c = '\r'
    · subst hc
      have shorter : (behindReturn t).length ≤ t.length := length_behindReturn_le t
      rw [unifyNewlines_return, linesFrom_return,
        linesFrom_cons_of_endsLine (by decide) (by decide), linesFrom_unifyNewlines]
    · rw [unifyNewlines_cons hc]
      cases hends : c.endsLine with
      | true =>
        rw [linesFrom_cons_of_endsLine hends hc, linesFrom_cons_of_endsLine hends hc,
          linesFrom_unifyNewlines]
      | false => rw [linesFrom_cons hends, linesFrom_cons hends, linesFrom_unifyNewlines]
termination_by t.length
decreasing_by all_goals simp only [List.length_cons]; omega

/-- The lines of a text do not depend on how their ends are written. -/
theorem lines_unifyNewlines (t : Text) : lines (unifyNewlines t) = lines t :=
  linesFrom_unifyNewlines t none

/-- What has been read of a line goes in front of it. -/
theorem linesFrom_append (h : ∀ c ∈ w, c.endsLine = false) :
    linesFrom (some l) (w ++ t) = linesFrom (some (w.reverse ++ l)) t := by
  induction w generalizing l with
  | nil => rfl
  | cons c w ih =>
    obtain ⟨hc, hw⟩ := List.forall_mem_cons.1 h
    rw [List.cons_append, linesFrom_cons hc, ih hw, List.reverse_cons, List.append_assoc]
    rfl

theorem lines_append (h : ∀ c ∈ w, c.endsLine = false) (hw : w ≠ []) :
    lines (w ++ t) = linesFrom (some w.reverse) t := by
  cases w with
  | nil => exact absurd rfl hw
  | cons c w =>
    obtain ⟨hc, hw⟩ := List.forall_mem_cons.1 h
    rw [lines, List.cons_append, linesFrom_cons hc, linesFrom_append hw, List.reverse_cons]
    rfl

/-- A line goes on in one way, whatever has been read of it. -/
theorem exists_linesFrom (t : Text) : ∃ (first : Text) (rest : List Text),
    (∀ l, linesFrom (some l) t = (l.reverse ++ first) :: rest) ∧
      (t = [] ∧ first = [] ∧ rest = [] ∨ lines t = first :: rest) := by
  cases t with
  | nil => exact ⟨[], [], fun l => by rw [linesFrom, List.append_nil], .inl ⟨rfl, rfl, rfl⟩⟩
  | cons c t =>
    cases hends : c.endsLine with
    | true =>
      obtain ⟨u, -, hu⟩ := exists_linesFrom_end hends t
      exact ⟨[], lines u, fun l => by rw [hu, List.append_nil]; rfl, .inr (hu none)⟩
    | false =>
      obtain ⟨first, rest, hfirst, -⟩ := exists_linesFrom t
      refine ⟨c :: first, rest, fun l => ?_, .inr ?_⟩
      · simp [linesFrom_cons hends, hfirst]
      · simp [lines, linesFrom_cons hends, hfirst]

end Text

end GoLexicon
