import GoLexicon.Proofs.CommandLine.VerbatimList
import GoLexicon.Proofs.Scan.Modes
/-!
# Scans that begin with their own words

The words that a scan gives are the words of themselves: in the strict mode they are of small
letters only, and in the verbatim mode any text that is not empty stays as it is
(`Scan.words_of_mem_run`). So a scan to which they are given as further words begins with them, and
the rest of it is that of the scan without them.

The two scans go side by side (`Scan.lockstep_exceeds`). At each moment the second one has the words
of the first one and those that it was given (`Scan.Exceeds`). In the end the first one has these
too, and both give the same set (`Scan.run_reseeded`).
-/

namespace GoLexicon

/-! ## Words of words -/

theorem CodePoint.toSmall_of_isSmall {c : CodePoint} (h : c.isSmall = true) : c.toSmall = c := by
  have hrange := isSmall_iff.1 h
  have hcapital : c.isCapital = false := by
    simp only [isCapital, Bool.and_eq_false_iff, decide_eq_false_iff_not]
    omega
  simp [toSmall, hcapital]

namespace Mode

variable {mode : Mode} {w : Text}

/-- A token that a mode keeps as it is has itself for its word. -/
theorem words_of_kept (hne : w ≠ []) (h : mode.kept w = w) : mode.words w = [w] := by
  obtain ⟨c, rest, rfl⟩ := List.exists_cons_of_ne_nil hne
  rw [words, h]

theorem kept_of_isSmallWord (h : w.IsSmallWord) : Mode.strict.kept w = w := by
  have letters : w.takeWhile (·.isLetter) = w := by
    apply List.takeWhile_eq_self_iff.2
    intro c hc
    simp [CodePoint.isLetter, h.2 c hc]
  have small : w.map CodePoint.toSmall = w.map id := by
    apply List.map_congr_left
    intro c hc
    exact CodePoint.toSmall_of_isSmall (h.2 c hc)
  rw [kept, letters, small, List.map_id]

/-- The words of words that stay as they are. -/
theorem wordsOfAll_eq_self {ws : List Text} (h : ∀ w ∈ ws, mode.words w = [w]) :
    mode.wordsOfAll ws = ws := by
  induction ws with
  | nil => rfl
  | cons w ws ih =>
    have hrest : mode.wordsOfAll ws = ws := ih fun v hv => h v (List.mem_cons_of_mem w hv)
    rw [wordsOfAll_cons, h w List.mem_cons_self, hrest, List.singleton_append]

end Mode

namespace Scan

variable {guide : Guide} {mode : Mode} {further part : List Text} {s : WordSet}

theorem words_of_mem_run (h : (run guide mode further).result = .ok s) {w : Text} (hw : w ∈ s) :
    mode.words w = [w] := by
  have hne : w ≠ [] := by
    rintro rfl
    exact WordSet.not_mem_nil hw
  apply Mode.words_of_kept hne
  cases mode with
  | strict => exact Mode.kept_of_isSmallWord ((isSmall_run h).2 w hw)
  | verbatim => rfl

/-- The members of a set that are no texts have come as they are, and in the verbatim mode. -/
def KeepsOthers (mode : Mode) (s : WordSet) : Prop :=
  ∀ v ∈ s.others, mode = .verbatim ∧ v.isOther = true

theorem KeepsOthers.addAll (h : KeepsOthers mode s) (ws : List Text) :
    KeepsOthers mode (s.addAll ws) := by
  unfold KeepsOthers
  rwa [WordSet.others_addAll]

theorem KeepsOthers.addName {r : Record} (h : KeepsOthers mode r.words) (name : Json) :
    KeepsOthers mode ((addName mode name).perform r).2.words := by
  unfold Scan.addName
  split
  · next t => exact h.addAll (Mode.words _ t)
  · rw [perform_get_bind]
    cases hwords : r.words.addValue name with
    | ok words =>
      intro v hv
      rcases WordSet.mem_others_of_addValue hwords hv with hv | ⟨rfl, other⟩
      · exact h v hv
      · exact ⟨rfl, other⟩
    | error fault => exact h
  · split <;> exact h

theorem keepsOthers_run (h : (run guide mode further).result = .ok s) : KeepsOthers mode s := by
  have none : KeepsOthers mode ∅ := fun v hv => absurd hv List.not_mem_nil
  exact of_run_of_kept (none.addAll _) (fun p _ _ hr => hr.addName p.name)
    (fun _ _ ht => ht.addAll _) h

/-! ## The two scans -/

/-- The record of a scan beside that of one that was given some words: they have asked the same, and
the second one has these words besides those of the first one. -/
structure Exceeds (guide : Guide) (part : List Text) (r r' : Record) : Prop where
  dialogue : guide.dialogue r.events = guide.dialogue r'.events
  words : r'.words = r.words.addAll part

theorem alongside_addName_exceeds (mode : Mode) (name : Json) :
    Alongside (Exceeds guide part) Eq (addName mode name) (addName mode name) := by
  intro r r' h
  unfold addName
  split
  · next t =>
    refine ⟨.refl _, h.dialogue, ?_⟩
    change r'.words.addAll (mode.words t) = (r.words.addAll (mode.words t)).addAll part
    rw [h.words, WordSet.addAll_comm]
  · -- the value is refused by both sets, or by none of them
    rw [perform_get_bind, perform_get_bind, h.words, WordSet.addValue_addAll]
    cases r.words.addValue name with
    | ok words => exact ⟨.refl _, h.dialogue, rfl⟩
    | error fault => exact ⟨.refl _, h⟩
  · split <;> exact ⟨.refl _, h⟩

theorem alongside_addIdentifier_exceeds (mode : Mode) (name : Text) :
    Alongside (Exceeds guide part) Eq (addIdentifier mode name) (addIdentifier mode name) := by
  intro r r' h
  obtain ⟨s, hp, hw, -, -, hd⟩ := perform_forM_addWord guide (mode.words name) r
  obtain ⟨s', hp', hw', -, -, hd'⟩ := perform_forM_addWord guide (mode.words name) r'
  rw [addIdentifier, hp, hp']
  refine ⟨.refl _, ?_, ?_⟩
  · exact hd.trans (h.dialogue.trans hd'.symm)
  · change s'.words = s.words.addAll part
    rw [hw, hw', h.words, WordSet.addAll_comm]

theorem lockstep_exceeds (steady : guide.IsSteady) (mode : Mode) (part : List Text) :
    Lockstep (Exceeds guide part) Eq guide guide mode mode where
  list _ _ h := .of_eq (steady.list _ _ h.dialogue)
  resolve importPath _ _ _ h := .of_eq (steady.resolve _ _ importPath h.dialogue)
  extract path _ _ _ h := .of_eq (steady.extract _ _ path h.dialogue)
  event e _ _ _ h := ⟨steady.dialogue_cons h.dialogue e, h.words⟩
  finished _ _ h := ⟨h.dialogue, h.words⟩
  name p _ := alongside_addName_exceeds mode p.name
  identifier name := alongside_addIdentifier_exceeds mode name

/-- The set that a scan begins with has the further words that are words of themselves. -/
theorem seed_append (h : ∀ w ∈ part, mode.words w = [w]) :
    seed mode (further ++ part) ∅ = (seed mode further ∅).addAll part := by
  have tokens : Vocabulary.tokens (further ++ part) = Vocabulary.tokens further ++ part :=
    (List.append_assoc _ _ _).symm
  rw [seed, seed, tokens, Mode.wordsOfAll_append, WordSet.addAll_append, Mode.wordsOfAll_eq_self h]

theorem exceeds_started (guide : Guide) (h : ∀ w ∈ part, mode.words w = [w]) :
    Exceeds guide part (started mode further) (started mode (further ++ part)) where
  dialogue := by rw [events_started, events_started]
  words := by rw [words_started, words_started, seed_append h]

/-- A scan that is given some of its own words besides gives the same set. -/
theorem run_append (steady : guide.IsSteady) (h : (run guide mode further).result = .ok s)
    (hpart : ∀ w ∈ part, w ∈ s) : (run guide mode (further ++ part)).result = .ok s := by
  have fixed : ∀ w ∈ part, mode.words w = [w] := fun w hw => words_of_mem_run h (hpart w hw)
  obtain ⟨r, r', exceeds, hrun, hrun'⟩ | ⟨f, _, _, -, hrun, -⟩ :=
    (lockstep_exceeds steady mode part).run further (further ++ part) (exceeds_started guide fixed)
  · rw [hrun] at h
    obtain rfl : r.words = s := Except.ok.inj h
    rw [hrun', exceeds.words, WordSet.addAll_eq_self hpart]
  · rw [hrun] at h
    cases h

/-- **A scan gives its own words again.** Each word of the set that a scan gives is the word of
itself; members that are no texts are there in the verbatim mode only, which takes them as they are.
If some of the words are given to the scan as further words besides those it had, it gives the same
set. This goes for all words in order, in particular; where there is a member that is no text, there
is no such order. -/
theorem run_reseeded (guide : Guide) (mode : Mode) (further : List Text) (s : WordSet)
    (steady : guide.IsSteady) (h : (run guide mode further).result = .ok s) :
    (∀ w ∈ s, mode.words w = [w]) ∧
    (∀ v ∈ s.others, mode = .verbatim ∧ v.isOther = true) ∧
    (∀ part : List Text, (∀ w ∈ part, w ∈ s) →
      (run guide mode (further ++ part)).result = .ok s) ∧
    ∀ vs, s.sorted = .ok vs → ∃ ws : List Text, vs = ws.map .text ∧ (∀ w, w ∈ ws ↔ w ∈ s) ∧
      (run guide mode (further ++ ws)).result = .ok s := by
  refine ⟨fun w => words_of_mem_run h, keepsOthers_run h,
    fun part => run_append steady h, fun vs hvs => ?_⟩
  have hne : s.words ≠ [] := List.ne_nil_of_mem (mem_run_of_mem_seed mem_seed_break h)
  obtain ⟨-, hvs⟩ := (WordSet.sorted_eq_ok_iff hne).1 hvs
  exact ⟨s.words, hvs, fun w => WordSet.mem_iff.symm, run_append steady h fun w => id⟩

theorem run_reseeded_smallLibrary :
    (Guide.of smallLibrary fun _ => .ok ["Println"]).IsSteady ∧
    ∃ (s : WordSet) (ws : List Text),
      (run (.of smallLibrary fun _ => .ok ["Println"]) .strict ["naïve"]).result = .ok s ∧
      s.sorted = .ok (ws.map .text) ∧ Text.ofString "na" ∈ ws ∧
      Mode.strict.words "na" = ["na"] ∧
      (run (.of smallLibrary fun _ => .ok ["Println"]) .strict ("naïve" :: ws)).result =
        .ok s := by
  have steady := Guide.isSteady_of smallLibrary fun _ => .ok ["Println"]
  obtain ⟨s, hs⟩ : ∃ s, (run (.of smallLibrary fun _ => .ok ["Println"]) .strict
      ["naïve"]).result = .ok s :=
    (run_of_ok_iff isNamed_smallLibrary).2 (isReadable_smallLibrary ["Println"])
  have sorted : s.sorted = .ok (s.words.map .text) :=
    WordSet.sorted_of_others (others_run (Catalog.isNamed_guide isNamed_smallLibrary) hs)
  have member : Text.ofString "na" ∈ s := by
    refine mem_run_of_mem_seed (mem_seed.2 ⟨"naïve", ?_, Mode.mem_words.1 ?_⟩) hs
    · exact List.mem_append_right _ (List.mem_singleton_self _)
    · decide +kernel
  obtain ⟨fixed, -, -, again⟩ := run_reseeded _ .strict ["naïve"] s steady hs
  obtain ⟨ws, hws, hmem, hrun⟩ := again _ sorted
  refine ⟨steady, s, ws, hs, ?_, (hmem _).2 member, fixed _ member, hrun⟩
  rw [sorted, hws]

end Scan

end GoLexicon
