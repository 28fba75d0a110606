import Mathlib.Data.List.Forall2
/-!
# Steps that may fail

What a sequence of steps gives, and with what it fails: two steps (`bind_eq_ok_iff`,
`bind_eq_error_iff`), and one step for each item of a list (`mapM_eq_ok_iff`, `mapM_eq_error_iff`),
where the first step that fails decides.

Two results may agree up to what is not told of their failures (`AgreeUpTo`).
-/

namespace Except

variable {ε α β : Type} {x : Except ε α} {f : α → Except ε β}

theorem bind_eq_ok_iff {b : β} : x >>= f = .ok b ↔ ∃ a, x = .ok a ∧ f a = .ok b := by
  cases x with
  | error e => exact ⟨nofun, nofun⟩
  | ok a => exact ⟨fun h => ⟨a, rfl, h⟩, fun ⟨_, ha, h⟩ => Except.ok.inj ha ▸ h⟩

theorem bind_eq_error_iff {e : ε} :
    x >>= f = .error e ↔ x = .error e ∨ ∃ a, x = .ok a ∧ f a = .error e := by
  cases x with
  | error e' =>
    constructor
    · rintro ⟨⟩
      exact .inl rfl
    · rintro (⟨⟨⟩⟩ | ⟨_, ⟨⟩, _⟩)
      rfl
  | ok a => exact ⟨fun h => .inr ⟨a, rfl, h⟩, fun h => h.elim nofun fun ⟨_, ha, h⟩ =>
      Except.ok.inj ha ▸ h⟩

theorem mapM_cons_eq_ok_iff {a : α} {l : List α} {bs : List β} : (a :: l).mapM f = .ok bs ↔
    ∃ b bs', f a = .ok b ∧ l.mapM f = .ok bs' ∧ bs = b :: bs' := by
  rw [List.mapM_cons, bind_eq_ok_iff]
  constructor
  · rintro ⟨b, hb, h⟩
    obtain ⟨bs', hbs, h⟩ := bind_eq_ok_iff.1 h
    exact ⟨b, bs', hb, hbs, (Except.ok.inj h).symm⟩
  · rintro ⟨b, bs', hb, hbs, rfl⟩
    exact ⟨b, hb, bind_eq_ok_iff.2 ⟨bs', hbs, rfl⟩⟩

theorem mapM_eq_ok_iff {l : List α} {bs : List β} :
    l.mapM f = .ok bs ↔ List.Forall₂ (fun a b => f a = .ok b) l bs := by
  induction l generalizing bs with
  | nil =>
    rw [List.mapM_nil, List.forall₂_nil_left_iff]
    exact ⟨fun h => (Except.ok.inj h).symm, fun h => h ▸ rfl⟩
  | cons a l ih =>
    rw [mapM_cons_eq_ok_iff, List.forall₂_cons_left_iff]
    simp only [ih]

theorem mapM_eq_error_iff {l : List α} {e : ε} : l.mapM f = .error e ↔
    ∃ before a after, l = before ++ a :: after ∧ (∀ b ∈ before, ∃ c, f b = .ok c) ∧
      f a = .error e := by
  induction l with
  | nil =>
    rw [List.mapM_nil]
    exact ⟨nofun, fun ⟨_, _, _, h, _⟩ => absurd h.symm (by simp)⟩
  | cons a l ih =>
    rw [List.mapM_cons, bind_eq_error_iff]
    constructor
    · rintro (h | ⟨b, hb, h⟩)
      · exact ⟨[], a, l, rfl, by simp, h⟩
      · obtain h | ⟨_, _, h⟩ := bind_eq_error_iff.1 h
        · obtain ⟨before, a', after, rfl, hbefore, ha'⟩ := ih.1 h
          exact ⟨a :: before, a', after, rfl, List.forall_mem_cons.2 ⟨⟨b, hb⟩, hbefore⟩, ha'⟩
        · cases h
    · rintro ⟨before, a', after, hl, hbefore, ha'⟩
      cases before with
      | nil =>
        obtain ⟨rfl, rfl⟩ := List.cons.inj hl
        exact .inl ha'
      | cons b before =>
        obtain ⟨rfl, rfl⟩ := List.cons.inj hl
        obtain ⟨⟨c, hc⟩, hbefore⟩ := List.forall_mem_cons.1 hbefore
        exact .inr ⟨c, hc, bind_eq_error_iff.2 (.inl (ih.2 ⟨before, a', after, rfl, hbefore, ha'⟩))⟩

theorem exists_of_mapM_eq_ok {l : List α} {bs : List β} (h : l.mapM f = .ok bs) {a : α}
    (ha : a ∈ l) : ∃ b ∈ bs, f a = .ok b := by
  have hbs := mapM_eq_ok_iff.1 h
  clear h
  induction hbs with
  | nil => exact absurd ha List.not_mem_nil
  | cons hb _ ih =>
    rcases List.mem_cons.1 ha with rfl | ha
    · exact ⟨_, List.mem_cons_self, hb⟩
    · obtain ⟨b, hmem, hb⟩ := ih ha
      exact ⟨b, List.mem_cons_of_mem _ hmem, hb⟩

/-- One step for each item gives something exactly when each of the steps does. -/
theorem exists_mapM_eq_ok_iff {l : List α} :
    (∃ bs, l.mapM f = .ok bs) ↔ ∀ a ∈ l, ∃ b, f a = .ok b := by
  constructor
  · rintro ⟨bs, h⟩ a ha
    obtain ⟨b, -, hb⟩ := exists_of_mapM_eq_ok h ha
    exact ⟨b, hb⟩
  · intro h
    cases hl : l.mapM f with
    | ok bs => exact ⟨bs, rfl⟩
    | error e =>
      obtain ⟨before, a, after, rfl, -, ha⟩ := mapM_eq_error_iff.1 hl
      obtain ⟨b, hb⟩ := h a (by simp)
      exact nomatch ha.symm.trans hb

/-- A step for what may be there. -/
theorem option_mapM_eq_ok_iff {x : Option α} {y : Option β} : x.mapM f = .ok y ↔
    x = none ∧ y = none ∨ ∃ a b, x = some a ∧ f a = .ok b ∧ y = some b := by
  cases x with
  | none => simp [pure, Except.pure, eq_comm]
  | some a =>
    cases hf : f a with
    | error e => simp [hf, Functor.map, Except.map]
    | ok b => simp [hf, Functor.map, Except.map, eq_comm]

/-- A step for what may be there, where the step can give one thing only. -/
theorem eq_map_of_option_mapM_eq_ok {g : α → β} {x : Option α} {y : Option β}
    (h : x.mapM f = .ok y) (hg : ∀ a b, f a = .ok b → b = g a) : y = x.map g := by
  obtain ⟨rfl, rfl⟩ | ⟨a, b, rfl, hb, rfl⟩ := option_mapM_eq_ok_iff.1 h
  · rfl
  · rw [hg a b hb, Option.map_some]

/-! ## Failures that are not told apart -/

/-- Two results are the same, or two failures that are related. -/
inductive AgreeUpTo (E : ε → ε → Prop) : Except ε α → Except ε α → Prop where
  | ok (a : α) : AgreeUpTo E (.ok a) (.ok a)
  | error {e e' : ε} (h : E e e') : AgreeUpTo E (.error e) (.error e')

namespace AgreeUpTo

variable {E : ε → ε → Prop} {y : Except ε α} {g : α → Except ε β}

theorem refl [Std.Refl E] (x : Except ε α) : AgreeUpTo E x x := by
  cases x with
  | ok a => exact .ok a
  | error e => exact .error (Std.Refl.refl e)

theorem of_eq [Std.Refl E] (h : x = y) : AgreeUpTo E x y := h ▸ refl x

/-- A second step, behind first ones that agree. -/
theorem bind (h : AgreeUpTo E x y) (hnext : ∀ a, x = .ok a → AgreeUpTo E (f a) (g a)) :
    AgreeUpTo E (x >>= f) (y >>= g) := by
  cases h with
  | ok a => exact hnext a rfl
  | error h => exact .error h

end AgreeUpTo

end Except
