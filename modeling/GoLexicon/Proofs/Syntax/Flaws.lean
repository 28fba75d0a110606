import GoLexicon.Syntax.Harvest
/-!
# The first flaw of a tree

A tree lists its nodes with each node before those below it (`Node.preorder`). The search for a flaw
goes down only where a mark says that there is one, and goes on behind a subtree that was marked for
nothing. As long as every node with a flaw below it is marked (`Node.IsFlagged`), it comes to the
same as going through all nodes: nothing that is passed over has a flaw
(`Node.find?_preorder_of_unmarked`), and what is searched comes in the order of the list
(`Node.firstFlaw?_eq_find?`). So the place in the diagnostic on a tree is that of its first flaw
(`Node.refusal_places_first_flaw`).
-/

namespace GoLexicon.Syntax.Node

/-! ## The nodes of a tree -/

mutual

/-- The nodes of a tree, each before the nodes below it, in the order of the source. -/
def preorder : Node → List Node
  | .mk marks children => .mk marks children :: preorderAmong children

/-- The nodes of some trees. -/
def preorderAmong : List Node → List Node
  | [] => []
  | n :: rest => preorder n ++ preorderAmong rest

end

/-- The nodes below the root of a tree. -/
def descendants (n : Node) : List Node := preorderAmong n.children

/-- Every node of the tree that has a flaw below it is marked. -/
def IsFlagged (root : Node) : Prop :=
  ∀ n ∈ root.preorder, (∃ m ∈ n.descendants, m.marks.isFlawed = true) → n.marks.hasError = true

instance (root : Node) : Decidable root.IsFlagged :=
  inferInstanceAs (Decidable (∀ n ∈ root.preorder, _ → _))

theorem preorder_eq (n : Node) : n.preorder = n :: n.descendants := by
  obtain ⟨marks, children⟩ := n
  rw [preorder]
  rfl

theorem preorderAmong_eq_flatMap (ns : List Node) : preorderAmong ns = ns.flatMap preorder := by
  induction ns with
  | nil => rfl
  | cons n ns ih => rw [preorderAmong, ih, List.flatMap_cons]

/-- What is below a child is below its parent. -/
theorem IsFlagged.of_mem_children {n c : Node} (h : n.IsFlagged) (hc : c ∈ n.children) :
    c.IsFlagged := by
  intro m hm
  refine h m ?_
  rw [preorder_eq, descendants, preorderAmong_eq_flatMap]
  exact List.mem_cons_of_mem _ (List.mem_flatMap.2 ⟨c, hc, hm⟩)

/-! ## The search -/

/-- Where a subtree is passed over, there is no flaw in it. -/
theorem find?_preorder_of_unmarked {n : Node} (flagged : n.IsFlagged)
    (unmarked : ¬ (n.marks.hasError = true ∨ n.marks.isFlawed = true)) :
    n.preorder.find? (·.marks.isFlawed) = none := by
  obtain ⟨noError, sound⟩ := not_or.1 unmarked
  rw [List.find?_eq_none, preorder_eq]
  refine List.forall_mem_cons.2 ⟨sound, fun m hm flawed => noError ?_⟩
  exact flagged n (preorder_eq n ▸ List.mem_cons_self) ⟨m, hm, flawed⟩

mutual

/-- The search finds the first flaw among all nodes of the tree. -/
theorem firstFlaw?_eq_find? : ∀ n : Node, n.IsFlagged →
    n.firstFlaw? = n.preorder.find? (·.marks.isFlawed)
  | .mk marks children => fun flagged => by
    have inner := firstFlawAmong?_eq_find? children fun c hc => flagged.of_mem_children hc
    rw [firstFlaw?, preorder, List.find?_cons, inner]
    cases h : marks.isFlawed <;> simp [Node.marks, h]

theorem firstFlawAmong?_eq_find? : ∀ ns : List Node, (∀ n ∈ ns, n.IsFlagged) →
    firstFlawAmong? ns = (preorderAmong ns).find? (·.marks.isFlawed)
  | [] => fun _ => rfl
  | .mk marks children :: rest => fun flagged => by
    obtain ⟨hn, hrest⟩ := List.forall_mem_cons.1 flagged
    have further := firstFlawAmong?_eq_find? rest hrest
    rw [firstFlawAmong?, preorderAmong, List.find?_append, further]
    split
    · -- a subtree that is marked for nothing leaves it to those behind it
      rw [firstFlaw?_eq_find? (.mk marks children) hn, Option.orElse_eq_orElse,
        Option.orElse_eq_or]
    · next unmarked =>
      rw [find?_preorder_of_unmarked hn (by simpa [Node.marks] using unmarked), Option.none_or]

end

theorem firstFlaw?_eq_none_iff {n : Node} (flagged : n.IsFlagged) :
    n.firstFlaw? = none ↔ ∀ m ∈ n.preorder, m.marks.isFlawed = false := by
  rw [firstFlaw?_eq_find? n flagged, List.find?_eq_none]
  simp only [Bool.not_eq_true]

/-! ## The diagnostic -/

/-- **The diagnostic on a tree places its first flaw.** In a tree in which every node with a flaw
below it is marked, the search gives the first flawed node of all, and none exactly if there is
none, also where marks are set for nothing. If the tree is said to have an error, it is refused with
the line and the column of this node, counted from one, and either is left out exactly if no node is
flawed. -/
theorem refusal_places_first_flaw (origin : Text) (root : Node) (flagged : root.IsFlagged) :
    root.firstFlaw? = root.preorder.find? (·.marks.isFlawed) ∧
    (root.firstFlaw? = none ↔ ∀ n ∈ root.preorder, n.marks.isFlawed = false) ∧
    (root.marks.hasError = true → ∃ line column,
      root.exportedNames origin = .error (.diagnostic ⟨.parsing (some origin) line column,
        some ("Syntax error in " ++ origin ++ placeSuffix root.firstFlaw?), none⟩) ∧
      (∀ before n after, root.preorder = before ++ n :: after →
        (∀ m ∈ before, m.marks.isFlawed = false) → n.marks.isFlawed = true →
        line = some (n.marks.row + 1 : Int) ∧ column = some (n.marks.column + 1 : Int)) ∧
      (line = none ↔ ∀ n ∈ root.preorder, n.marks.isFlawed = false) ∧
      (column = none ↔ ∀ n ∈ root.preorder, n.marks.isFlawed = false)) := by
  have found := firstFlaw?_eq_find? root flagged
  have clean := firstFlaw?_eq_none_iff flagged
  refine ⟨found, clean, fun marked => ?_⟩
  have refused : root.exportedNames origin = .error (root.syntaxError origin) := by
    rw [exportedNames, if_pos marked]
  refine ⟨_, _, refused, ?_, ?_, ?_⟩
  · intro before n after split sound flawed
    have first : root.firstFlaw? = some n := by
      rw [found, List.find?_eq_some_iff_append]
      exact ⟨flawed, before, after, split, fun m hm => by rw [sound m hm]; rfl⟩
    rw [first]
    exact ⟨rfl, rfl⟩
  · rw [Option.map_eq_none_iff, clean]
  · rw [Option.map_eq_none_iff, clean]

/-- A tree in which a subtree is marked for nothing, and something is missing behind it, without a
name. -/
def flawedFile : Node :=
  .mk ⟨"source_file", [], true, none, false, false, true, 0, 0⟩ [
    .mk ⟨"package_clause", [], true, none, false, false, true, 0, 0⟩ [plain "identifier" []],
    build ⟨"function_declaration", [], true, none, false, false, false, 2, 0⟩ [
      leaf "identifier" "name" [0x46],
      build ⟨")", [], false, none, false, true, false, 2, 7⟩ [],
      build ⟨"ERROR", [], true, none, true, false, false, 3, 0⟩ []]]

theorem refusal_places_first_flaw_flawedFile : flawedFile.IsFlagged ∧
    flawedFile.marks.hasError = true ∧ flawedFile.exportedNames "small.go" =
      .error (.diagnostic ⟨.parsing (some "small.go") (some 3) (some 8),
        some "Syntax error in small.go:3:8", none⟩) := by
  have flagged : flawedFile.IsFlagged := by decide +kernel
  have marked : flawedFile.marks.hasError = true := rfl
  have words : Text.ofString "Syntax error in " ++ Text.ofString "small.go" ++
      placeSuffix flawedFile.firstFlaw? = "Syntax error in small.go:3:8" := by decide +kernel
  obtain ⟨line, column, refused, places, -, -⟩ :=
    (refusal_places_first_flaw "small.go" flawedFile flagged).2.2 marked
  rw [words] at refused
  -- the nodes in front of the missing one, and those from it on
  obtain ⟨rfl, rfl⟩ := places (flawedFile.preorder.take 5)
    (build ⟨")", [], false, none, false, true, false, 2, 7⟩ []) (flawedFile.preorder.drop 6) rfl
    (by decide +kernel) rfl
  exact ⟨flagged, marked, refused⟩

end GoLexicon.Syntax.Node
