import GoLexicon.Vocabulary
import GoLexicon.Word.Set
import Mathlib.Data.List.TakeWhile
import Mathlib.Tactic.Tauto
/-!
# The members of a set of words

What is in a set after words have been added (`WordSet.mem_addAll`): the members before, and each of
the words that is not empty. Two sets of texts with the same members are equal (`WordSet.ext_mem`),
so a set does not show in which order its words came.

What a mode makes of a token is said by `Mode.IsFormOf`, without the functions that compute it:
in the strict mode the longest run of letters in front, made small, and in the verbatim mode the
token, in both cases unless it is empty.
-/

namespace GoLexicon

/-! ## Sets -/

namespace Text

theorem eq_of_not_lt {w v : Text} (h : ¬ w < v) (h' : ¬ v < w) : w = v :=
  List.le_antisymm (List.not_lt.1 h') (List.not_lt.1 h)

theorem mem_insertInto {w x : Text} {l : List Text} : w ∈ insertInto x l ↔ w = x ∨ w ∈ l := by
  refine ⟨mem_of_mem_insertInto, fun h => ?_⟩
  induction l with
  | nil => simpa [insertInto] using h
  | cons v rest ih =>
    unfold insertInto
    split
    · simpa using h
    · next hxv =>
      split
      · rcases h with h | h
        · exact List.mem_cons_of_mem _ (ih (.inl h))
        · rcases List.mem_cons.1 h with h | h
          · exact List.mem_cons.2 (.inl h)
          · exact List.mem_cons_of_mem _ (ih (.inr h))
      · next hvx =>
        -- the text is in the list already
        have hx : x = v := eq_of_not_lt hxv hvx
        simpa [hx] using h

end Text

namespace WordSet

variable {s t : WordSet} {w x : Text}

theorem mem_iff : w ∈ s ↔ w ∈ s.words := Iff.rfl

theorem not_mem_nil : [] ∉ s := s.filled

@[simp] theorem not_mem_empty : w ∉ (∅ : WordSet) := List.not_mem_nil

@[simp] theorem mem_add : w ∈ s.add x ↔ w ∈ s ∨ (w = x ∧ w ≠ []) := by
  unfold add
  split
  · next hx =>
    subst hx
    exact ⟨.inl, fun h => h.elim id fun h => absurd h.1 h.2⟩
  · next hx =>
    simp only [mem_iff, Text.mem_insertInto]
    constructor
    · rintro (rfl | h)
      · exact .inr ⟨rfl, hx⟩
      · exact .inl h
    · rintro (h | ⟨rfl, -⟩)
      · exact .inr h
      · exact .inl rfl

@[simp] theorem mem_addAll {ws : List Text} : w ∈ s.addAll ws ↔ w ∈ s ∨ (w ∈ ws ∧ w ≠ []) := by
  induction ws generalizing s with
  | nil => simp [addAll]
  | cons x ws ih =>
    have step : s.addAll (x :: ws) = (s.add x).addAll ws := rfl
    rw [step, ih, mem_add, List.mem_cons]
    tauto

@[simp] theorem others_add : (s.add x).others = s.others := by
  unfold add
  split <;> rfl

@[simp] theorem others_addAll (ws : List Text) : (s.addAll ws).others = s.others := by
  induction ws generalizing s with
  | nil => rfl
  | cons x ws ih => exact (ih (s := s.add x)).trans others_add

@[simp] theorem addAll_nil : s.addAll [] = s := rfl

theorem mem_ofList {ws : List Text} : w ∈ ofList ws ↔ w ∈ ws ∧ w ≠ [] :=
  mem_addAll.trans (or_iff_right not_mem_empty)

@[simp] theorem others_ofList (ws : List Text) : (ofList ws).others = [] := others_addAll ws

theorem addAll_append (ws vs : List Text) : s.addAll (ws ++ vs) = (s.addAll ws).addAll vs :=
  List.foldl_append

theorem nodup_of_ascending {l : List Text} (h : l.Pairwise (· < ·)) : l.Nodup := by
  apply h.imp
  rintro a _ hlt rfl
  exact List.lt_irrefl _ hlt

/-- An ascending list is known by its members. -/
theorem words_eq_of_mem_iff {l m : List Text} (hl : l.Pairwise (· < ·)) (hm : m.Pairwise (· < ·))
    (h : ∀ w, w ∈ l ↔ w ∈ m) : l = m := by
  have hperm : l.Perm m :=
    (List.perm_ext_iff_of_nodup (nodup_of_ascending hl) (nodup_of_ascending hm)).2 h
  exact hperm.eq_of_pairwise (fun a b _ _ hab hba => absurd hba (List.lt_asymm hab)) hl hm

theorem ext_mem (hw : ∀ w, w ∈ s ↔ w ∈ t) (ho : s.others = t.others) : s = t := by
  have hwords : s.words = t.words := words_eq_of_mem_iff s.ascending t.ascending hw
  cases s
  cases t
  simp_all

/-- Words that a set has already change nothing. -/
theorem addAll_eq_self {ws : List Text} (h : ∀ w ∈ ws, w ∈ s) : s.addAll ws = s := by
  apply ext_mem
  · intro w
    rw [mem_addAll]
    exact or_iff_left_of_imp fun hw => h w hw.1
  · exact others_addAll ws

theorem addAll_comm (s : WordSet) (ws vs : List Text) :
    (s.addAll ws).addAll vs = (s.addAll vs).addAll ws := by
  apply ext_mem
  · intro w
    simp only [mem_addAll]
    tauto
  · simp only [others_addAll]

end WordSet

/-! ## Words of tokens -/

namespace Mode

/-- The text `w` is what a mode leaves of a token: the longest run of letters in front of it, made
small, or the token as it is. Where nothing is left, no text is. -/
def IsFormOf (w : Text) : Mode → Text → Prop
  | strict, token => ∃ run rest : Text, token = run ++ rest ∧ run ≠ [] ∧
      (∀ c ∈ run, c.isLetter = true) ∧ (∀ c ∈ rest.head?, c.isLetter = false) ∧
      w = run.map CodePoint.toSmall
  | verbatim, token => token ≠ [] ∧ w = token

theorem mem_words_iff_kept {mode : Mode} {token w : Text} :
    w ∈ mode.words token ↔ w = mode.kept token ∧ w ≠ [] := by
  unfold words
  split
  · next h => simp [h]
  · next c rest h =>
    rw [h, List.mem_singleton]
    exact ⟨fun hw => ⟨hw, by simp [hw]⟩, And.left⟩

theorem takeWhile_eq_of_split {p : CodePoint → Bool} {run rest : Text}
    (hrun : ∀ c ∈ run, p c = true) (hrest : ∀ c ∈ rest.head?, p c = false) :
    (run ++ rest).takeWhile p = run := by
  rw [List.takeWhile_append_of_pos hrun]
  cases rest with
  | nil => simp
  | cons c rest => simp [hrest c rfl]

theorem mem_words {mode : Mode} {token w : Text} :
    w ∈ mode.words token ↔ mode.IsFormOf w token := by
  rw [mem_words_iff_kept]
  cases mode with
  | verbatim =>
    constructor
    · rintro ⟨rfl, hne⟩
      exact ⟨hne, rfl⟩
    · rintro ⟨hne, rfl⟩
      exact ⟨rfl, hne⟩
  | strict =>
    constructor
    · rintro ⟨rfl, hne⟩
      refine ⟨token.takeWhile (·.isLetter), token.dropWhile (·.isLetter),
        List.takeWhile_append_dropWhile.symm, fun h => hne (by simp [kept, h]),
        fun c hc => List.mem_takeWhile_imp hc, fun c hc => ?_, rfl⟩
      have := List.head?_dropWhile_not (fun c : CodePoint => c.isLetter) token
      rw [Option.mem_def.1 hc] at this
      simpa using this
    · rintro ⟨run, rest, rfl, hne, hrun, hrest, rfl⟩
      exact ⟨by rw [kept, takeWhile_eq_of_split hrun hrest], by simpa using hne⟩

theorem mem_wordsOfAll {mode : Mode} {tokens : List Text} {w : Text} :
    w ∈ mode.wordsOfAll tokens ↔ ∃ token ∈ tokens, mode.IsFormOf w token := by
  simp only [wordsOfAll, List.mem_flatMap, mem_words]

theorem ne_nil_of_mem_wordsOfAll {mode : Mode} {tokens : List Text} {w : Text}
    (h : w ∈ mode.wordsOfAll tokens) : w ≠ [] := by
  obtain ⟨token, -, hw⟩ := List.mem_flatMap.1 h
  exact (mem_words_iff_kept.1 hw).2

theorem wordsOfAll_cons (mode : Mode) (token : Text) (ts : List Text) :
    mode.wordsOfAll (token :: ts) = mode.words token ++ mode.wordsOfAll ts :=
  List.flatMap_cons

@[simp] theorem wordsOfAll_nil (mode : Mode) : mode.wordsOfAll [] = [] := rfl

@[simp] theorem wordsOfAll_append (mode : Mode) (ts us : List Text) :
    mode.wordsOfAll (ts ++ us) = mode.wordsOfAll ts ++ mode.wordsOfAll us :=
  List.flatMap_append

@[simp] theorem wordsOfAll_singleton (mode : Mode) (token : Text) :
    mode.wordsOfAll [token] = mode.words token := by
  simp [wordsOfAll]

end Mode

/-- Words of a token are never empty, so all of them get into a set. -/
theorem WordSet.mem_addAll_words {s : WordSet} {mode : Mode} {token w : Text} :
    w ∈ s.addAll (mode.words token) ↔ w ∈ s ∨ w ∈ mode.words token := by
  have filled : w ∈ mode.words token → w ≠ [] := fun hw => (Mode.mem_words_iff_kept.1 hw).2
  rw [mem_addAll, and_iff_left_of_imp filled]

end GoLexicon
