import GoLexicon.Console.Markup
/-!
# Escaped tags

In an escaped text each tag has an odd number of backslashes in front of it
(`Markup.odd_of_escape_eq`), so none is active. Escaping neither makes a tag nor breaks one
(`Markup.opensTag_escapeFrom`): a backslash cannot begin a tag, and it does not end one either. So
the backslashes can be taken away again (`Markup.unescape`), and the text is left.

A text that ends in exactly one backslash gets one more, which is no part of a tag and is taken away
by itself (`Markup.escape_eq`).
-/

namespace GoLexicon.Markup

/-- A tag: an opening bracket, a code point that begins tags, and all up to a closing bracket, with
no other opening one among them. -/
def IsTag (t : Text) : Prop :=
  ∃ c inner, t = CodePoint.ofChar '[' :: c :: (inner ++ [CodePoint.ofChar ']']) ∧
    beginsTag c = true ∧ CodePoint.ofChar '[' ∉ inner

/-- How many backslashes a text ends in. -/
def endingSlashes (t : Text) : Nat := (t.reverse.takeWhile (· = CodePoint.ofChar '\\')).length

/-- A text behind some backslashes, where each tag behind an odd number of them gets half of this
number, rounded down. -/
def unescapeFrom (slashes : Nat) : Text → Text
  | [] => backslashes slashes
  | c :: rest =>
    if c = '\\' then unescapeFrom (slashes + 1) rest
    else if c = '[' && opensTag rest && slashes % 2 = 1 then
      backslashes (slashes / 2) ++ c :: unescapeFrom 0 rest
    else backslashes slashes ++ c :: unescapeFrom 0 rest

/-- A text without the backslashes that escape its tags. -/
def unescape (t : Text) : Text := unescapeFrom 0 t

variable {t u before rest : Text} {c : CodePoint} {n : Nat}

/-! ## Tags -/

theorem closes_iff : closes t = true ↔ ∃ inner after,
    t = inner ++ CodePoint.ofChar ']' :: after ∧ CodePoint.ofChar '[' ∉ inner := by
  induction t with
  | nil => simp [closes]
  | cons c t ih =>
    rw [closes, Bool.or_eq_true, Bool.and_eq_true, decide_eq_true_iff, decide_eq_true_iff, ih]
    constructor
    · rintro (rfl | ⟨hc, inner, after, rfl, hinner⟩)
      · exact ⟨[], t, rfl, List.not_mem_nil⟩
      · exact ⟨c :: inner, after, rfl, List.not_mem_cons_of_ne_of_not_mem hc.symm hinner⟩
    · rintro ⟨inner, after, h, hinner⟩
      cases inner with
      | nil => exact .inl (List.cons.inj h).1
      | cons d inner =>
        obtain ⟨rfl, rfl⟩ := List.cons.inj h
        exact .inr ⟨(List.ne_of_not_mem_cons hinner).symm, inner, after, rfl,
          List.not_mem_of_not_mem_cons hinner⟩

/-- A bracket opens a tag exactly if a tag begins with it. -/
theorem opensTag_iff : opensTag t = true ↔
    ∃ tag after, CodePoint.ofChar '[' :: t = tag ++ after ∧ IsTag tag := by
  cases t with
  | nil =>
    refine ⟨nofun, ?_⟩
    rintro ⟨_, after, h, c, inner, rfl, -⟩
    cases h
  | cons c t =>
    rw [opensTag, Bool.and_eq_true, closes_iff]
    constructor
    · rintro ⟨hc, inner, after, rfl, hinner⟩
      exact ⟨_, after, by simp, c, inner, rfl, hc, hinner⟩
    · rintro ⟨_, after, h, d, inner, rfl, hd, hinner⟩
      obtain ⟨rfl, rfl⟩ : c = d ∧ t = inner ++ CodePoint.ofChar ']' :: after := by
        simpa using h
      exact ⟨hd, inner, after, rfl, hinner⟩

theorem closes_backslashes_append (n : Nat) (t : Text) :
    closes (backslashes n ++ t) = closes t := by
  have other : ¬ CodePoint.ofChar '\\' = CodePoint.ofChar ']' ∧
      CodePoint.ofChar '\\' ≠ CodePoint.ofChar '[' := by decide
  induction n with
  | zero => rfl
  | succ n ih =>
    rw [backslashes, List.replicate_succ, List.cons_append, closes, decide_eq_false other.1,
      decide_eq_true other.2, Bool.false_or, Bool.true_and]
    exact ih

/-- A backslash begins no tag. -/
theorem opensTag_backslash (t : Text) : opensTag (CodePoint.ofChar '\\' :: t) = false := by
  have begins : beginsTag (CodePoint.ofChar '\\') = false := by decide
  rw [opensTag, begins, Bool.false_and]

/-- Backslashes behind a text do not make a tag of it, nor break one. -/
theorem opensTag_append_backslashes (t : Text) (n : Nat) :
    opensTag (t ++ backslashes n) = opensTag t := by
  have closed : ∀ t : Text, closes (t ++ backslashes n) = closes t := by
    intro t
    induction t with
    | nil => simpa using closes_backslashes_append n []
    | cons c t ih => rw [List.cons_append, closes, closes, ih]
  cases t with
  | nil =>
    cases n with
    | zero => rfl
    | succ n => exact opensTag_backslash _
  | cons c t => rw [List.cons_append, opensTag, opensTag, closed]

/-! ## Backslashes at the end -/

theorem endingSlashes_append_backslashes (t : Text) (n : Nat) :
    endingSlashes (t ++ backslashes n) = endingSlashes t + n := by
  rw [endingSlashes, List.reverse_append, backslashes, List.reverse_replicate,
    List.takeWhile_append_of_pos (by simp), List.length_append, List.length_replicate, Nat.add_comm]
  rfl

theorem endingSlashes_backslashes (n : Nat) : endingSlashes (backslashes n) = n := by
  simpa [endingSlashes] using endingSlashes_append_backslashes [] n

/-- Only what is behind the last other code point counts. -/
theorem endingSlashes_append_cons (hc : c ≠ CodePoint.ofChar '\\') (t u : Text) :
    endingSlashes (t ++ c :: u) = endingSlashes u := by
  rw [endingSlashes, List.reverse_append, List.reverse_cons, List.append_assoc,
    List.singleton_append, List.takeWhile_append]
  split
  · next hall =>
    rw [List.takeWhile_cons_of_neg (by simpa using hc), List.append_nil, endingSlashes, hall]
  · rfl

/-! ## Escaping -/

theorem opensTag_escapeFrom_succ (n : Nat) (t : Text) :
    opensTag (escapeFrom (n + 1) t) = false := by
  induction t generalizing n with
  | nil => exact opensTag_backslash _
  | cons c t ih =>
    rw [escapeFrom]
    split
    · exact ih _
    · split <;> exact opensTag_backslash _

theorem closes_escapeFrom (n : Nat) (t : Text) : closes (escapeFrom n t) = closes t := by
  induction t generalizing n with
  | nil => simpa [escapeFrom] using closes_backslashes_append n []
  | cons c t ih =>
    rw [escapeFrom]
    split
    · next hc =>
      rw [ih, ← closes_backslashes_append 1 t, hc]
      rfl
    · split <;> rw [closes_backslashes_append, closes, closes, ih]

/-- To escape the tags of a text makes none of it, nor breaks one. -/
theorem opensTag_escapeFrom (t : Text) : opensTag (escapeFrom 0 t) = opensTag t := by
  cases t with
  | nil => rfl
  | cons c t =>
    rw [escapeFrom]
    split
    · next hc => rw [opensTag_escapeFrom_succ, hc, opensTag_backslash]
    · split
      · next htag =>
        have hc : c = CodePoint.ofChar '[' := of_decide_eq_true (Bool.and_eq_true_iff.1 htag).1
        have begins : beginsTag (CodePoint.ofChar '[') = false := by decide
        rw [hc, opensTag, begins, Bool.false_and]
        exact opensTag_backslash _
      · change opensTag (c :: escapeFrom 0 t) = _
        rw [opensTag, opensTag, closes_escapeFrom]

theorem endingSlashes_escapeFrom (n : Nat) (t : Text) :
    endingSlashes (escapeFrom n t) = endingSlashes (backslashes n ++ t) := by
  induction t generalizing n with
  | nil => rw [escapeFrom, List.append_nil]
  | cons c t ih =>
    rw [escapeFrom]
    split
    · next hc =>
      rw [ih, backslashes, List.replicate_succ', List.append_assoc, List.singleton_append, hc]
      rfl
    · next hc =>
      split <;> rw [endingSlashes_append_cons hc, endingSlashes_append_cons hc, ih] <;> rfl

/-- An escaped text ends in an additional backslash exactly if the text ends in a single one. -/
theorem escape_eq (t : Text) :
    escape t = escapeFrom 0 t ++ if endsInOneBackslash t then backslashes 1 else [] := by
  have same : endsInOneBackslash (escapeFrom 0 t) = endsInOneBackslash t := by
    have ending := endingSlashes_escapeFrom 0 t
    change decide (endingSlashes (escapeFrom 0 t) = 1) = decide (endingSlashes t = 1)
    rw [ending]
    rfl
  simp only [escape, same]
  split <;> simp

/-- A bracket that is not in the first part of a text is in the second. -/
theorem exists_of_append_eq (h : t ++ u = before ++ c :: rest) (hc : c ∉ t) :
    ∃ inner, before = t ++ inner ∧ u = inner ++ c :: rest := by
  rcases List.append_eq_append_iff.1 h with ⟨inner, rfl, hu⟩ | ⟨inner, rfl, hrest⟩
  · exact ⟨inner, rfl, hu⟩
  · cases inner with
    | nil => exact ⟨[], by simp, by simpa using hrest.symm⟩
    | cons d inner =>
      obtain ⟨rfl, -⟩ := List.cons.inj hrest
      exact absurd (by simp) hc

theorem not_mem_backslashes (n : Nat) : CodePoint.ofChar '[' ∉ backslashes n := by
  have other : CodePoint.ofChar '[' ≠ CodePoint.ofChar '\\' := by decide
  exact fun h => other (List.eq_of_mem_replicate h)

/-- Each tag of an escaped text has an odd number of backslashes in front of it. -/
theorem odd_of_escapeFrom_eq (h : escapeFrom n t = before ++ CodePoint.ofChar '[' :: rest)
    (htag : opensTag rest = true) : endingSlashes before % 2 = 1 := by
  induction t generalizing n before with
  | nil =>
    have mem : CodePoint.ofChar '[' ∈ backslashes n := by
      rw [escapeFrom] at h
      simp [h]
    exact absurd mem (not_mem_backslashes n)
  | cons c t ih =>
    rw [escapeFrom] at h
    split at h
    · exact ih h
    · next hc =>
      -- the tag begins with this code point, or it is one of those behind it
      have this_or_later : ∀ m,
          backslashes m ++ c :: escapeFrom 0 t = before ++ CodePoint.ofChar '[' :: rest →
            (before = backslashes m ∧ c = CodePoint.ofChar '[' ∧ escapeFrom 0 t = rest) ∨
              endingSlashes before % 2 = 1 := by
        intro m h
        obtain ⟨inner, rfl, hinner⟩ := exists_of_append_eq h (not_mem_backslashes m)
        cases inner with
        | nil => exact .inl ⟨List.append_nil _, List.cons.inj hinner⟩
        | cons d inner =>
          obtain ⟨rfl, hrest⟩ := List.cons.inj hinner
          rw [endingSlashes_append_cons hc]
          exact .inr (ih hrest)
      split at h
      · obtain ⟨rfl, -⟩ | odd := this_or_later _ h
        · rw [endingSlashes_backslashes]
          omega
        · exact odd
      · next hno =>
        obtain ⟨-, rfl, rfl⟩ | odd := this_or_later _ h
        · -- the bracket was there before, and it opened no tag
          rw [opensTag_escapeFrom] at htag
          simp [htag] at hno
        · exact odd

theorem odd_of_escape_eq (h : escape t = before ++ CodePoint.ofChar '[' :: rest)
    (htag : opensTag rest = true) : endingSlashes before % 2 = 1 := by
  obtain ⟨k, hk⟩ : ∃ k, escape t = escapeFrom 0 t ++ backslashes k := by
    rw [escape_eq]
    split
    · exact ⟨1, rfl⟩
    · exact ⟨0, rfl⟩
  rw [hk] at h
  rcases List.append_eq_append_iff.1 h with ⟨inner, -, hinner⟩ | ⟨inner, hescaped, hrest⟩
  · have mem : CodePoint.ofChar '[' ∈ backslashes k := by simp [hinner]
    exact absurd mem (not_mem_backslashes k)
  · cases inner with
    | nil =>
      have mem : CodePoint.ofChar '[' ∈ backslashes k := by
        rw [← List.nil_append (backslashes k), ← hrest]
        exact List.mem_cons_self
      exact absurd mem (not_mem_backslashes k)
    | cons d inner =>
      obtain ⟨rfl, rfl⟩ := List.cons.inj hrest
      exact odd_of_escapeFrom_eq hescaped ((opensTag_append_backslashes inner k).symm.trans htag)

/-! ## Taking the backslashes away -/

theorem unescapeFrom_backslashes_append (n m : Nat) (t : Text) :
    unescapeFrom n (backslashes m ++ t) = unescapeFrom (n + m) t := by
  induction m generalizing n with
  | zero => rfl
  | succ m ih =>
    rw [backslashes, List.replicate_succ, List.cons_append, unescapeFrom, if_pos rfl]
    exact (ih (n + 1)).trans (by rw [Nat.add_assoc, Nat.add_comm 1 m])

theorem unescape_escapeFrom (n : Nat) (t : Text) :
    unescape (escapeFrom n t) = backslashes n ++ t := by
  induction t generalizing n with
  | nil =>
    have taken := unescapeFrom_backslashes_append 0 n []
    rw [List.append_nil] at taken
    rw [escapeFrom, List.append_nil, unescape, taken, Nat.zero_add, unescapeFrom]
  | cons c t ih =>
    have later : unescapeFrom 0 (escapeFrom 0 t) = t := ih 0
    rw [escapeFrom]
    split
    · next hc =>
      rw [ih, backslashes, List.replicate_succ', List.append_assoc, List.singleton_append, hc]
      rfl
    · next hc =>
      split
      · next htag =>
        have half : (0 + (2 * n + 1)) / 2 = n := by omega
        rw [unescape, unescapeFrom_backslashes_append, unescapeFrom, if_neg hc, opensTag_escapeFrom,
          htag, later, if_pos (by simp), half]
      · next hno =>
        rw [unescape, unescapeFrom_backslashes_append, unescapeFrom, if_neg hc, opensTag_escapeFrom,
          later, if_neg (by simp_all), Nat.zero_add]

end GoLexicon.Markup
