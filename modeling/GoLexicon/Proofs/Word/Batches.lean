import GoLexicon.Proofs.Word.Values
/-!
# Sets of words that are filled in batches

A set to which batches of texts have been added shows nothing of how this was done: how the texts
were grouped makes no difference (`WordSet.ofBatches_eq_ofList`), nor do their order, repetitions
and empty texts among them (`WordSet.ofBatches_eq_of_mem_iff`). What can be asked of such a set (is
a text in it, how many there are, what they are in order, how they are shown) is answered from the
texts alone (`WordSet.ofBatches_is_set`).
-/

namespace GoLexicon.WordSet

variable {s : WordSet} {w : Text} {ws : List Text} {batches batches' : List (List Text)}

/-! ## One batch -/

/-- Values that are texts are added without a fault, like the texts that they are. -/
theorem addValues_text (s : WordSet) (ws : List Text) :
    s.addValues (ws.map .text) = (s.addAll ws, none) := by
  induction ws generalizing s with
  | nil => rfl
  | cons w ws ih => exact ih (s.add w)

/-! ## Some batches -/

/-- The set after some batches of texts have been added, one after the other. -/
def ofBatches (batches : List (List Text)) : WordSet := batches.foldl addAll ∅

/-- How texts are grouped makes no difference. -/
theorem ofBatches_eq_ofList (batches : List (List Text)) :
    ofBatches batches = ofList batches.flatten :=
  List.foldl_flatten.symm

theorem mem_ofBatches : w ∈ ofBatches batches ↔ w ≠ [] ∧ ∃ batch ∈ batches, w ∈ batch := by
  rw [ofBatches_eq_ofList, mem_ofList, List.mem_flatten, and_comm]

theorem others_ofBatches (batches : List (List Text)) : (ofBatches batches).others = [] := by
  rw [ofBatches_eq_ofList, others_ofList]

theorem ofBatches_eq_of_mem_iff
    (h : ∀ w, w ≠ [] → ((∃ batch ∈ batches, w ∈ batch) ↔ ∃ batch ∈ batches', w ∈ batch)) :
    ofBatches batches = ofBatches batches' := by
  apply ext_mem
  · intro w
    rw [mem_ofBatches, mem_ofBatches]
    exact and_congr_right (h w)
  · rw [others_ofBatches, others_ofBatches]

/-! ## What is asked of a set -/

theorem hasValue_text (s : WordSet) (w : Text) : s.hasValue (.text w) = .ok (decide (w ∈ s)) := rfl

theorem size_of_others (h : s.others = []) : s.size = s.words.length := by
  simp [size, h]

/-- **A set of words is a set**: a text is found in it exactly if it is not empty and one of the
batches has it. The texts that are found, in ascending order, are its sorted list; their number is
its size, and they are what it is shown by. Batches in which the same texts come, in any order, any
grouping and any number of times, and with any empty texts among them, make one and the same set. It
is all the same whether texts are added as texts or as values. -/
theorem ofBatches_is_set (batches : List (List Text)) :
    (∀ w, (ofBatches batches).hasValue (.text w) =
      .ok (decide (w ≠ [] ∧ ∃ batch ∈ batches, w ∈ batch))) ∧
    (∃ ws, (ofBatches batches).sorted = .ok (ws.map .text) ∧ ws.Pairwise (· < ·) ∧
      (∀ w, w ∈ ws ↔ (ofBatches batches).hasValue (.text w) = .ok true) ∧
      (ofBatches batches).size = ws.length ∧
      (ofBatches batches).report = .ok (ws.map .text, render ws)) ∧
    (∀ batches', (∀ w, w ≠ [] →
        ((∃ batch ∈ batches, w ∈ batch) ↔ ∃ batch ∈ batches', w ∈ batch)) →
      ofBatches batches = ofBatches batches') ∧
    ∀ s ws, addValues s (ws.map .text) = (s.addAll ws, none) := by
  have others : (ofBatches batches).others = [] := others_ofBatches batches
  refine ⟨fun w => ?_, ⟨(ofBatches batches).words, sorted_of_others others,
    (ofBatches batches).ascending, fun w => ?_, size_of_others others, report_of_others others⟩,
    fun batches' => ofBatches_eq_of_mem_iff, addValues_text⟩
  · rw [hasValue_text, decide_eq_decide.2 mem_ofBatches]
  · rw [hasValue_text, Except.ok.injEq, decide_eq_true_iff, mem_iff]

/-- Three batches, with a repetition and an empty text, and one batch in another order. -/
theorem ofBatches_regrouped :
    ofBatches [["map", "go"], [], ["go", "", "if"]] = ofBatches [["if", "map", "go"]] := by
  obtain ⟨-, -, same, -⟩ := ofBatches_is_set [["map", "go"], [], ["go", "", "if"]]
  apply same
  intro w hw
  have empty : Text.ofString "" = [] := rfl
  simp only [List.mem_cons, List.not_mem_nil, or_false, exists_eq_or_imp, exists_eq_left, empty, hw]
  tauto

end GoLexicon.WordSet
