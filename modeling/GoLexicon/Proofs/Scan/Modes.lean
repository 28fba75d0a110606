import GoLexicon.Proofs.Scan.Library
import GoLexicon.Proofs.Scan.SideBySide
/-!
# The two modes

The strict scan of a library and the verbatim one ask the same and are told the same, so they end at
the same step. They hold different words at each moment: the verbatim mode tells apart what the
strict one makes equal, and keeps tokens of which the strict one leaves nothing. But the words of
the strict scan are at each moment what the strict mode makes of the words of the verbatim one
(`WordSet.IsReductionOf`), and this is kept by each token that both add
(`WordSet.IsReductionOf.addAll`).

The guide may give other answers to a question that is put again, but they must not depend on the
words (`Guide.IsSteady`).
-/

namespace GoLexicon

/-! ## Steady guides -/

/-- What a guide answers depends on nothing but the questions and answers before. -/
structure Guide.IsSteady (guide : Guide) : Prop where
  list : ∀ before before', guide.dialogue before = guide.dialogue before' →
    guide.list before = guide.list before'
  resolve : ∀ before before' importPath, guide.dialogue before = guide.dialogue before' →
    guide.resolve before importPath = guide.resolve before' importPath
  extract : ∀ before before' path, guide.dialogue before = guide.dialogue before' →
    guide.extract before path = guide.extract before' path

namespace Guide

variable {guide : Guide} {before before' : List Event}

/-- Fixed answers are steady. -/
theorem isSteady_of (c : Catalog) (extract : Extractor) : (Guide.of c extract).IsSteady :=
  ⟨fun _ _ _ => rfl, fun _ _ _ _ => rfl, fun _ _ _ _ => rfl⟩

theorem IsSteady.exchange?_eq (steady : guide.IsSteady)
    (h : guide.dialogue before = guide.dialogue before') (e : Event) :
    guide.exchange? before e = guide.exchange? before' e := by
  cases e with
  | listed => simp only [exchange?, steady.list before before' h]
  | resolved importPath => simp only [exchange?, steady.resolve before before' importPath h]
  | extracted path => simp only [exchange?, steady.extract before before' path h]
  | _ => rfl

theorem IsSteady.dialogue_cons (steady : guide.IsSteady)
    (h : guide.dialogue before = guide.dialogue before') (e : Event) :
    guide.dialogue (e :: before) = guide.dialogue (e :: before') := by
  rw [dialogue, dialogue, h, steady.exchange?_eq h e]

end Guide

theorem Record.told_cons (r : Record) (e : Event) :
    { r with events := e :: r.events }.told = r.told ++ if e.isTold then [e] else [] := by
  cases h : e.isTold <;> simp [Record.told, h]

/-! ## What the strict mode makes of words -/

namespace Mode

variable {token w : Text}

/-- The strict words of a token are those of its verbatim words. -/
theorem mem_strict_words_verbatim :
    (∃ t ∈ Mode.verbatim.words token, w ∈ Mode.strict.words t) ↔ w ∈ Mode.strict.words token := by
  cases token with
  | nil => simp [words, kept]
  | cons c rest =>
    have whole : Mode.verbatim.words (c :: rest) = [c :: rest] := rfl
    simp [whole]

end Mode

/-- The members of a set of words are what the strict mode makes of the members of another one. -/
def WordSet.IsReductionOf (s v : WordSet) : Prop :=
  ∀ w, w ∈ s ↔ ∃ t ∈ v, w ∈ Mode.strict.words t

namespace WordSet.IsReductionOf

variable {s v : WordSet}

theorem empty : (∅ : WordSet).IsReductionOf ∅ := by
  intro w
  simp

/-- It stays so when both modes add the words of a token. -/
theorem addAll (h : s.IsReductionOf v) (token : Text) :
    (s.addAll (Mode.strict.words token)).IsReductionOf
      (v.addAll (Mode.verbatim.words token)) := by
  intro w
  simp only [mem_addAll_words, or_and_right, exists_or]
  rw [h w, Mode.mem_strict_words_verbatim]

theorem addAll_tokens (h : s.IsReductionOf v) (tokens : List Text) :
    (s.addAll (Mode.strict.wordsOfAll tokens)).IsReductionOf
      (v.addAll (Mode.verbatim.wordsOfAll tokens)) := by
  induction tokens generalizing s v with
  | nil => exact h
  | cons token tokens ih =>
    rw [Mode.wordsOfAll_cons, Mode.wordsOfAll_cons, addAll_append, addAll_append]
    exact ih (h.addAll token)

end WordSet.IsReductionOf

/-! ## The two scans -/

namespace Scan

/-- The record of a strict scan beside that of a verbatim one: they have asked and told the same,
and the words of the one are the reduction of the words of the other one. -/
structure Reduces (guide : Guide) (r r' : Record) : Prop where
  dialogue : guide.dialogue r.events = guide.dialogue r'.events
  told : r.told = r'.told
  finished : r.finished = r'.finished
  words : r.words.IsReductionOf r'.words

variable {guide : Guide}

theorem alongside_addName {p : Package} (named : p.IsNamed) :
    Alongside (Reduces guide) Eq (addName .strict p.name) (addName .verbatim p.name) := by
  obtain ⟨t, ht⟩ := named
  rw [ht]
  intro r r' h
  exact ⟨.refl _, h.dialogue, h.told, h.finished, h.words.addAll t⟩

theorem alongside_addIdentifier (name : Text) :
    Alongside (Reduces guide) Eq (addIdentifier .strict name) (addIdentifier .verbatim name) := by
  intro r r' h
  obtain ⟨s, hp, hw, hf, ht, hd⟩ := perform_forM_addWord guide (Mode.strict.words name) r
  obtain ⟨s', hp', hw', hf', ht', hd'⟩ := perform_forM_addWord guide (Mode.verbatim.words name) r'
  rw [addIdentifier, addIdentifier, hp, hp']
  refine ⟨.refl _, ?_, ?_, ?_, ?_⟩
  · exact hd.trans (h.dialogue.trans hd'.symm)
  · exact ht.trans (h.told.trans ht'.symm)
  · exact hf.trans (h.finished.trans hf'.symm)
  · change s.words.IsReductionOf s'.words
    rw [hw, hw']
    exact h.words.addAll name

theorem lockstep_modes (steady : guide.IsSteady) (named : guide.IsNamed) :
    Lockstep (Reduces guide) Eq guide guide .strict .verbatim where
  list r r' h := .of_eq (steady.list _ _ h.dialogue)
  resolve importPath _ r r' h := .of_eq (steady.resolve _ _ importPath h.dialogue)
  extract path _ r r' h := .of_eq (steady.extract _ _ path h.dialogue)
  event e _ r r' h := by
    refine ⟨steady.dialogue_cons h.dialogue e, ?_, h.finished, h.words⟩
    rw [Record.told_cons, Record.told_cons, h.told]
  finished r r' h := ⟨h.dialogue, h.told, congrArg (· + 1) h.finished, h.words⟩
  name p gives := by
    obtain ⟨before, importPath, hp⟩ := gives
    exact alongside_addName (named before importPath p hp)
  identifier name := alongside_addIdentifier name

theorem reduces_started (guide : Guide) (further : List Text) :
    Reduces guide (started .strict further) (started .verbatim further) where
  dialogue := by rw [events_started, events_started]
  told := by rw [Record.told, Record.told, events_started, events_started]
  finished := by rw [finished_started, finished_started]
  words := by
    rw [words_started, words_started]
    exact WordSet.IsReductionOf.empty.addAll_tokens (Vocabulary.tokens further)

/-- **The two modes harvest the same tokens**: the strict scan and the verbatim one ask the same
questions and get the same answers. Both fail, with the same failure after the same events, or both
give a set, and then the strict set is what the strict mode makes of the verbatim one. -/
theorem run_strict_reduces_verbatim (guide : Guide) (further : List Text)
    (steady : guide.IsSteady) (named : guide.IsNamed) :
    (run guide .strict further).dialogue guide = (run guide .verbatim further).dialogue guide ∧
    ((∃ f, (run guide .strict further).result = .error f ∧
      (run guide .verbatim further).result = .error f ∧
      (run guide .strict further).trace.filter (·.isTold) =
        (run guide .verbatim further).trace.filter (·.isTold)) ∨
    ∃ S V, (run guide .strict further).result = .ok S ∧
      (run guide .verbatim further).result = .ok V ∧ S.others = [] ∧ V.others = [] ∧
      ∀ w, w ∈ S ↔ ∃ t ∈ V, w ∈ Mode.strict.words t) := by
  have lockstep := lockstep_modes steady named
  obtain ⟨r, r', h, hrun, hrun'⟩ | ⟨f, r, r', h, hrun, hrun'⟩ :=
    lockstep.run further further (reduces_started guide further)
  · have hS : (run guide .strict further).result = .ok r.words := by rw [hrun]
    have hV : (run guide .verbatim further).result = .ok r'.words := by rw [hrun']
    refine ⟨?_, .inr ⟨r.words, r'.words, hS, hV, others_run named hS, others_run named hV, h.words⟩⟩
    rw [hrun, hrun', Outcome.dialogue_left, Outcome.dialogue_left, Guide.dialogue_cons_of_none rfl,
      Guide.dialogue_cons_of_none rfl, h.dialogue]
  · refine ⟨?_, .inl ⟨f, by rw [hrun], by rw [hrun'], ?_⟩⟩
    · rw [hrun, hrun', Outcome.dialogue_left, Outcome.dialogue_left, h.dialogue]
    · have told : (r.events.filter (·.isTold)).reverse = (r'.events.filter (·.isTold)).reverse :=
        h.told
      rw [hrun, hrun', List.filter_reverse, List.filter_reverse, List.filter_cons_of_pos rfl,
        List.filter_cons_of_pos rfl, List.reverse_cons, List.reverse_cons, told]

theorem run_strict_reduces_smallLibrary : ∃ S V,
    (run (.of smallLibrary fun _ => .ok ["Println"]) .strict ["x", "x1"]).result = .ok S ∧
    (run (.of smallLibrary fun _ => .ok ["Println"]) .verbatim ["x", "x1"]).result = .ok V ∧
    ∀ w, w ∈ S ↔ ∃ t ∈ V, w ∈ Mode.strict.words t := by
  have steady := Guide.isSteady_of smallLibrary fun _ => .ok ["Println"]
  have named : (Guide.of smallLibrary fun _ => .ok ["Println"]).IsNamed :=
    Catalog.isNamed_guide isNamed_smallLibrary
  have returns : ∃ s, (run (.of smallLibrary fun _ => .ok ["Println"]) .strict
      ["x", "x1"]).result = .ok s :=
    (run_of_ok_iff isNamed_smallLibrary).2 (isReadable_smallLibrary ["Println"])
  obtain ⟨S', hS'⟩ := returns
  obtain ⟨-, ⟨f, hf, -⟩ | ⟨S, V, hS, hV, -, -, hwords⟩⟩ :=
    run_strict_reduces_verbatim _ ["x", "x1"] steady named
  · rw [hS'] at hf
    cases hf
  · exact ⟨S, V, hS, hV, hwords⟩

end Scan

end GoLexicon
