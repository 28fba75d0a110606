import GoLexicon.Proofs.Except
import GoLexicon.Proofs.Json.Documents
/-!
# The limits of the reader

A document may be beyond what the reader can take: then it is not refused for its grammar
(`Json.Overstrains`). This can only be if more lists and objects are open at a time than there may
be, or if an integer is too long, and both can be told from the tokens of the document, without
reading it (`Json.IsWithinLimits`). Behind each token that is read, as many lists and objects are
open as the tokens up to there say (`Json.Reading.length_frames_of_step`).

The bound on what is open is met: one opening bracket more than there may be is too many
(`Json.overstrains_brackets`).
-/

namespace GoLexicon.Json

/-- The reader gives a document up for another reason than its grammar. -/
def Overstrains (document : Text) : Prop :=
  ∃ f, read nestingLimit document = .error f ∧ ∀ r, f ≠ .refused r

/-- How many brackets and braces are open behind a token, where `n` are open in front of it. -/
def openBehind (n : Nat) (t : Token) : Nat :=
  match t.lexeme with
  | .openBrace | .openBracket => n + 1
  | .closeBrace | .closeBracket => n - 1
  | _ => n

/-- Some opening brackets. -/
def brackets (n : Nat) : Text := List.replicate n (CodePoint.ofChar '[')

theorem isScalar_brackets (n : Nat) : (brackets n).IsScalar :=
  fun _ hc => List.eq_of_mem_replicate hc ▸ CodePoint.isSurrogate_ofChar '['

/-- At no place of a document too many brackets and braces are open, and none of its integers is too
long. -/
structure IsWithinLimits (document : Text) : Prop where
  nesting : ∀ before, before <+: tokens document → before.foldl openBehind 0 ≤ nestingLimit
  integers : ∀ t ∈ tokens document, ∀ digits, t.lexeme ≠ .longInteger digits

namespace Reading

variable {depth position : Nat} {r r' : Reading} {t : Token} {f : Json.Failure} {ts : List Token}

theorem length_frames_supply (frames : List Frame) (v : Json) :
    (supply frames v).frames.length = frames.length := by
  unfold supply
  split <;> rfl

theorem length_frames_beginValue {frames : List Frame} (h : beginValue depth frames t = .ok r') :
    r'.frames.length = openBehind frames.length t := by
  unfold beginValue at h
  unfold openBehind
  split at h
  · next hl => rw [← Except.ok.inj h, hl, length_frames_supply]
  · next hl => rw [← Except.ok.inj h, hl, length_frames_supply]
  · next hl =>
    split at h
    · cases h
    · rw [← Except.ok.inj h, hl, List.length_cons]
  · next hl =>
    split at h
    · cases h
    · rw [← Except.ok.inj h, hl, List.length_cons]
  all_goals cases h

theorem length_frames_beginName {frames : List Frame} (h : beginName frames t = .ok r') :
    r'.frames.length = openBehind frames.length t := by
  unfold beginName at h
  unfold openBehind
  split at h
  · next hl => rw [← Except.ok.inj h, hl, List.length_cons, List.length_cons]
  all_goals cases h

/-- Behind a token as many lists and objects are open as the token says. -/
theorem length_frames_of_step (h : step depth r t = .ok r') :
    r'.frames.length = openBehind r.frames.length t := by
  unfold step at h
  split at h
  -- a list or an object that ends leaves the one around it
  case h_1 | h_2 | h_6 | h_7 =>
    next hl hf =>
    rw [← Except.ok.inj h, length_frames_supply, openBehind, hl, hf]
    rfl
  case h_3 =>
    next hl =>
    rw [← Except.ok.inj h, openBehind, hl]
  case h_4 | h_5 =>
    next hl hf =>
    rw [← Except.ok.inj h, openBehind, hl, hf]
  case h_8 | h_9 => exact length_frames_beginValue h
  case h_10 | h_11 => exact length_frames_beginName h
  all_goals cases h

/-- A token at which the reader gives up: a long integer, or an opening bracket or brace that is one
too many. -/
def IsBeyond (depth n : Nat) (t : Token) : Prop :=
  (∃ digits, t.lexeme = .longInteger digits) ∨ depth < openBehind n t

theorem isBeyond_of_beginValue {frames : List Frame}
    (h : beginValue depth frames t = .error (.inr f)) : IsBeyond depth frames.length t := by
  unfold beginValue at h
  split at h
  case h_3 | h_4 =>
    next hl =>
    split at h
    · next hdepth =>
      right
      rw [openBehind, hl]
      exact Nat.lt_succ_of_le hdepth
    · cases h
  case h_7 =>
    next digits hl => exact .inl ⟨digits, hl⟩
  all_goals cases h

theorem beginName_ne_error {frames : List Frame} : beginName frames t ≠ .error (.inr f) := by
  unfold beginName
  split <;> exact nofun

theorem isBeyond_of_step (h : step depth r t = .error (.inr f)) :
    IsBeyond depth r.frames.length t := by
  unfold step at h
  split at h
  case h_8 | h_9 => exact isBeyond_of_beginValue h
  case h_10 | h_11 => exact absurd h beginName_ne_error
  all_goals cases h

theorem finish_ne_error : r.finish position ≠ .error (.inr f) := by
  unfold finish
  split <;> exact nofun

/-- The reader gives up only at such a token. -/
theorem exists_isBeyond_of_run (h : run depth position r ts = .error (.inr f)) :
    ∃ before t after, ts = before ++ t :: after ∧
      IsBeyond depth (before.foldl openBehind r.frames.length) t := by
  -- on the tokens; what is open is carried along by the count of the tokens read
  induction ts generalizing r with
  | nil => exact absurd h finish_ne_error
  | cons t ts ih =>
    obtain h | ⟨r', hr', h⟩ := Except.bind_eq_error_iff.1 h
    · exact ⟨[], t, ts, rfl, isBeyond_of_step h⟩
    · obtain ⟨before, t', after, rfl, beyond⟩ := ih h
      rw [length_frames_of_step hr'] at beyond
      exact ⟨t :: before, t', after, rfl, beyond⟩

/-- Opening brackets are read until there are too many. -/
theorem run_brackets {frames : List Frame} {want : Want} (n : Nat) (rest : Text) (place : Nat)
    (hwant : want = .value ∨ want = .firstItem) (hframes : frames.length ≤ depth)
    (h : depth < frames.length + n) :
    run depth position ⟨frames, want⟩
        (tokensFrom place (brackets n ++ rest)) =
      .error (.inr (.tooDeep true)) := by
  induction n generalizing frames want place with
  | zero => exact absurd h (by omega)
  | succ n ih =>
    have opened : ∀ t : Token, t.lexeme = .openBracket → step depth ⟨frames, want⟩ t =
        if depth ≤ frames.length then .error (.inr (.tooDeep true))
        else .ok ⟨.list [] :: frames, .firstItem⟩ := by
      rintro ⟨l, place⟩ rfl
      obtain rfl | rfl := hwant <;> rfl
    rw [brackets, List.replicate_succ, List.cons_append,
      tokensFrom_cons IsMark.openBracket.not_isBlank (IsMark.openBracket.lexeme_eq _),
      List.drop_zero, run, opened _ rfl]
    split
    · rfl
    · exact ih _ (.inr rfl) (by rw [List.length_cons]; omega) (by rw [List.length_cons]; omega)

end Reading

theorem exists_run_of_overstrains {document : Text} (h : Overstrains document) :
    ∃ f, Reading.run nestingLimit document.length ⟨[], .value⟩ (tokens document) =
      .error (.inr f) := by
  obtain ⟨f, h, hf⟩ := h
  unfold read at h
  split at h
  · exact absurd (Except.error.inj h).symm (hf _)
  · split at h
    · cases h
    · exact absurd (Except.error.inj h).symm (hf _)
    · next hrun => exact ⟨_, hrun⟩

/-- **A document within the limits does not overstrain the reader**: either it has a value, or it is
refused for its grammar. -/
theorem IsWithinLimits.not_overstrains {document : Text} (h : IsWithinLimits document) :
    ¬ Overstrains document := by
  intro overstrains
  obtain ⟨f, hrun⟩ := exists_run_of_overstrains overstrains
  obtain ⟨before, t, after, htokens, ⟨digits, hdigits⟩ | deep⟩ :=
    Reading.exists_isBeyond_of_run hrun
  · exact h.integers t (by simp [htokens]) digits hdigits
  · have hprefix : before ++ [t] <+: tokens document := ⟨after, by simp [htokens]⟩
    have fits := h.nesting _ hprefix
    rw [List.foldl_append] at fits
    exact absurd deep (Nat.not_lt.2 fits)

/-- One opening bracket more than there may be is too many, whatever comes behind it. -/
theorem overstrains_brackets {n : Nat} (h : nestingLimit < n) (rest : Text) :
    Overstrains (brackets n ++ rest) := by
  refine ⟨.tooDeep true, ?_, nofun⟩
  have run : Reading.run nestingLimit (brackets n ++ rest).length ⟨[], .value⟩
      (tokens (brackets n ++ rest)) = .error (.inr (.tooDeep true)) :=
    Reading.run_brackets n rest 0 (.inl rfl) (Nat.zero_le _) (by simpa using h)
  have head : (brackets n ++ rest).head?.any (·.val = 0xFEFF) = false := by
    obtain ⟨m, rfl⟩ := Nat.exists_eq_add_of_lt h
    rfl
  rw [read, head, if_neg Bool.false_ne_true, run]

/-- The shortest of them. -/
theorem overstrains_brackets_succ : Overstrains (brackets (nestingLimit + 1)) := by
  rw [← List.append_nil (brackets _)]
  exact overstrains_brackets (Nat.lt_succ_self _) []

end GoLexicon.Json
