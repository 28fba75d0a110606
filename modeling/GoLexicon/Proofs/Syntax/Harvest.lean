import GoLexicon.Proofs.Except
import GoLexicon.Proofs.Text.Utf8
import GoLexicon.Syntax.Harvest
/-!
# What is harvested from a syntax tree

The nodes that stand in a declaration are listed without a judgement on them (`Node.inner`), in the
order of the source and through lists of specs of any depth. The specs of the declaration are these
nodes if all of them are known, and else the first one that is not is refused (`specs_eq_mapM`).

From this each node at the top of a file is either sound (`Node.IsSound`), and then all of its names
are read, or it offends (`Node.Offends`), and then its kind comes before its specs, and its specs
come before its names. `exportedNames_of_not_hasError` puts the nodes of a file together.
-/

namespace GoLexicon.Syntax

/-- A node, with the kind of the node that it stands in. -/
structure Placed where
  parent : Text
  node : Node

namespace Node

/-! ## The nodes that stand in a declaration -/

mutual

/-- The nodes that stand in a node, through lists of specs of any depth, in the order of the source.
Comments and nodes that are not named are passed over. -/
def inner : Node → List Placed
  | .mk marks children => innerAmong marks.kind children

/-- The nodes that stand among some children of a node of kind `parent`. -/
def innerAmong (parent : Text) : List Node → List Placed
  | [] => []
  | .mk marks children :: rest =>
    (if !marks.isNamed || marks.kind = "comment" then []
      else if isSpecList marks.kind then inner (.mk marks children)
      else [⟨parent, .mk marks children⟩]) ++ innerAmong parent rest

end

/-- A node stands in another one: it is a named child that is no comment and no list of specs, or it
stands in a list of specs that is a named child. -/
inductive StandsIn : Placed → Node → Prop where
  | child (n m : Node) (h : m ∈ n.namedChildren) (comment : m.kind ≠ "comment")
      (list : isSpecList m.kind = false) : StandsIn ⟨n.kind, m⟩ n
  | through (n l : Node) (m : Placed) (h : l ∈ n.namedChildren) (list : isSpecList l.kind = true)
      (below : StandsIn m l) : StandsIn m n

/-- A node as a spec, if it is of one of the kinds that may stand in a declaration. -/
def checkSpec (origin : Text) (allowed : List Text) (m : Placed) : Except Failure Node :=
  if m.node.kind ∈ allowed then .ok m.node else .error (unknownSpec origin m.node.kind m.parent)

mutual

theorem specs_eq_mapM (origin : Text) (allowed : List Text) :
    ∀ n : Node, n.specs origin allowed = n.inner.mapM (checkSpec origin allowed)
  | .mk marks children => by
    rw [specs, inner]
    exact specsAmong_eq_mapM origin allowed marks.kind children

theorem specsAmong_eq_mapM (origin : Text) (allowed : List Text) (parent : Text) :
    ∀ ns : List Node,
      specsAmong origin allowed parent ns = (innerAmong parent ns).mapM (checkSpec origin allowed)
  | [] => by
    rw [specsAmong, innerAmong, List.mapM_nil]
    rfl
  | .mk marks children :: rest => by
    have ih := specsAmong_eq_mapM origin allowed parent rest
    rw [specsAmong, innerAmong]
    split
    · rw [List.nil_append, ih]
    · split
      · rw [specs_eq_mapM origin allowed (.mk marks children), ih, List.mapM_append]
      · rw [List.singleton_append, List.mapM_cons, ← ih]
        split
        · next h =>
          have admitted : checkSpec origin allowed ⟨parent, .mk marks children⟩ = .ok _ :=
            if_pos h
          rw [admitted]
          rfl
        · next h =>
          have refused : checkSpec origin allowed ⟨parent, .mk marks children⟩ = .error _ :=
            if_neg h
          rw [refused]
          rfl

end

theorem isSpecList_comment : isSpecList "comment" = false := by decide +kernel

theorem mem_innerAmong {parent : Text} {ns : List Node} {m : Placed} :
    m ∈ innerAmong parent ns ↔ ∃ c ∈ ns, c.marks.isNamed = true ∧
      (c.kind ≠ "comment" ∧ isSpecList c.kind = false ∧ m = ⟨parent, c⟩ ∨
        isSpecList c.kind = true ∧ m ∈ c.inner) := by
  induction ns with
  | nil => simp [innerAmong]
  | cons c rest ih =>
    obtain ⟨marks, children⟩ := c
    rw [innerAmong, List.mem_append, ih, List.exists_mem_cons_iff]
    refine or_congr_left ?_
    change _ ↔ marks.isNamed = true ∧ (marks.kind ≠ "comment" ∧ isSpecList marks.kind = false ∧ _ ∨
      isSpecList marks.kind = true ∧ _)
    by_cases named : marks.isNamed = true
    · by_cases comment : marks.kind = "comment"
      · simp [comment, isSpecList_comment]
      · by_cases list : isSpecList marks.kind = true <;> simp [named, comment, list]
    · simp [named]

theorem mem_namedChildren {n c : Node} :
    c ∈ n.namedChildren ↔ c ∈ n.children ∧ c.marks.isNamed = true := List.mem_filter

theorem standsIn_of_mem_inner {m : Placed} : ∀ n : Node, m ∈ n.inner → StandsIn m n
  | .mk marks children => fun h => by
    rw [inner, mem_innerAmong] at h
    obtain ⟨c, hc, named, ⟨comment, list, rfl⟩ | ⟨list, hm⟩⟩ := h
    · exact .child (.mk marks children) c (mem_namedChildren.2 ⟨hc, named⟩) comment list
    · have smaller : sizeOf c < sizeOf children := List.sizeOf_lt_of_mem hc
      exact .through _ c m (mem_namedChildren.2 ⟨hc, named⟩) list (standsIn_of_mem_inner c hm)
  termination_by n => sizeOf n

/-- The nodes that are listed are those that stand in the node. -/
theorem mem_inner_iff {m : Placed} {n : Node} : m ∈ n.inner ↔ StandsIn m n := by
  refine ⟨standsIn_of_mem_inner n, fun h => ?_⟩
  induction h with
  | child n m h comment list =>
    obtain ⟨marks, children⟩ := n
    obtain ⟨hm, named⟩ := mem_namedChildren.1 h
    rw [inner, mem_innerAmong]
    exact ⟨m, hm, named, .inl ⟨comment, list, rfl⟩⟩
  | through n l m h list _ ih =>
    obtain ⟨marks, children⟩ := n
    obtain ⟨hl, named⟩ := mem_namedChildren.1 h
    rw [inner, mem_innerAmong]
    exact ⟨l, hl, named, .inr ⟨list, ih⟩⟩

/-! ## The specs of a declaration -/

section specs

variable {origin : Text} {allowed : List Text} {n : Node}

theorem checkSpec_eq_ok_iff {m : Placed} {k : Node} :
    checkSpec origin allowed m = .ok k ↔ m.node.kind ∈ allowed ∧ m.node = k := by
  unfold checkSpec
  split
  · next h => simp [h]
  · next h => simp [h]

theorem checkSpec_eq_error_iff {m : Placed} {f : Failure} : checkSpec origin allowed m = .error f ↔
    m.node.kind ∉ allowed ∧ f = unknownSpec origin m.node.kind m.parent := by
  unfold checkSpec
  split
  · next h => simp [h]
  · next h => simp [h, eq_comm]

theorem specs_eq_ok_iff {ms : List Node} : n.specs origin allowed = .ok ms ↔
    (∀ m, StandsIn m n → m.node.kind ∈ allowed) ∧ ms = n.inner.map (·.node) := by
  rw [specs_eq_mapM, Except.mapM_eq_ok_iff]
  simp only [checkSpec_eq_ok_iff, ← mem_inner_iff]
  rw [List.forall₂_and_left, eq_comm, ← List.forall₂_eq_eq_eq, List.forall₂_map_left_iff]

theorem specs_eq_error_iff {f : Failure} : n.specs origin allowed = .error f ↔
    ∃ before m after, n.inner = before ++ m :: after ∧ (∀ b ∈ before, b.node.kind ∈ allowed) ∧
      m.node.kind ∉ allowed ∧ f = unknownSpec origin m.node.kind m.parent := by
  rw [specs_eq_mapM, Except.mapM_eq_error_iff]
  simp [checkSpec_eq_ok_iff, checkSpec_eq_error_iff]

end specs

/-! ## Names -/

/-- The name that a node covers: its octets are those of a text, and the text is not qualified. -/
def IsNamed (n : Node) (t : Text) : Prop :=
  t.IsScalar ∧ t.octets = n.marks.octets ∧ CodePoint.ofChar '.' ∉ t

/-- The nodes of the names that a node at the top of a file declares. -/
def nameNodes (n : Node) : List Node :=
  match TopLevel.ofKind? n.kind with
  | some .function => n.childrenOf "name"
  | some (.declaration _) => n.inner.flatMap (·.node.childrenOf "name")
  | _ => []

/-- What stands in a node at the top of a file is of the kinds that may stand there. -/
def HasKnownSpecs (n : Node) : Prop :=
  ∀ allowed, TopLevel.ofKind? n.kind = some (.declaration allowed) →
    ∀ m, StandsIn m n → m.node.kind ∈ allowed

/-- A node at the top of a file is sound: its kind is known, and so are the specs in it, and its
names are names. -/
structure IsSound (n : Node) : Prop where
  kind : TopLevel.ofKind? n.kind ≠ none
  specs : n.HasKnownSpecs
  names : ∀ m ∈ n.nameNodes, ∃ t, m.IsNamed t

/-- What is refused in a node at the top of a file. -/
inductive Offends (origin : Text) (n : Node) : Failure → Prop where
  /-- Its kind is not known. -/
  | kind (h : TopLevel.ofKind? n.kind = none) : Offends origin n (unknownDeclaration origin n.kind)
  /-- This is the first spec in it that may not stand there. -/
  | spec (allowed : List Text) (before : List Placed) (m : Placed) (after : List Placed)
      (kind : TopLevel.ofKind? n.kind = some (.declaration allowed))
      (inner : n.inner = before ++ m :: after) (known : ∀ b ∈ before, b.node.kind ∈ allowed)
      (unknown : m.node.kind ∉ allowed) : Offends origin n (unknownSpec origin m.node.kind m.parent)
  /-- Its specs are known, and this is the first of its names that is no name: the octets are those
  of no text. -/
  | undecodable (before : List Node) (m : Node) (after : List Node) (malformed : Utf8.Malformed)
      (kind : TopLevel.ofKind? n.kind ≠ none) (specs : n.HasKnownSpecs)
      (names : n.nameNodes = before ++ m :: after) (named : ∀ b ∈ before, ∃ t, b.IsNamed t)
      (refused : Text.decode m.marks.octets = .error malformed)
      (noText : ∀ t : Text, t.IsScalar → t.octets ≠ m.marks.octets) :
      Offends origin n (.fault (.undecodable malformed))
  /-- Its specs are known, and this is the first of its names that is no name: it is qualified. -/
  | qualified (before : List Node) (m : Node) (after : List Node) (t : Text)
      (kind : TopLevel.ofKind? n.kind ≠ none) (specs : n.HasKnownSpecs)
      (names : n.nameNodes = before ++ m :: after) (named : ∀ b ∈ before, ∃ t, b.IsNamed t)
      (scalar : t.IsScalar) (octets : t.octets = m.marks.octets) (dot : CodePoint.ofChar '.' ∈ t) :
      Offends origin n (qualifiedName origin t)

section names

variable {origin : Text} {n : Node} {f : Failure}

theorem name_eq_ok_iff {t : Text} : n.name origin = .ok t ↔ n.IsNamed t := by
  rw [name, IsNamed, ← and_assoc, ← Text.decode_eq_ok_iff]
  cases Text.decode n.marks.octets with
  | error m => simp
  | ok u =>
    by_cases dot : CodePoint.ofChar '.' ∈ u
    · simp only [if_pos dot, reduceCtorEq, false_iff]
      rintro ⟨⟨⟩, free⟩
      exact free dot
    · simp only [if_neg dot]
      constructor
      · rintro ⟨⟩
        exact ⟨rfl, dot⟩
      · rintro ⟨⟨⟩, -⟩
        rfl

theorem mapM_name_eq_ok_iff (origin : Text) {ms : List Node} {ts : List Text} :
    ms.mapM (name origin) = .ok ts ↔ List.Forall₂ IsNamed ms ts := by
  rw [Except.mapM_eq_ok_iff]
  simp only [name_eq_ok_iff]

theorem name_eq_error (h : n.name origin = .error f) :
    (∃ malformed, Text.decode n.marks.octets = .error malformed ∧
      f = .fault (.undecodable malformed)) ∨
    ∃ t : Text, t.IsScalar ∧ t.octets = n.marks.octets ∧ CodePoint.ofChar '.' ∈ t ∧
      f = qualifiedName origin t := by
  unfold name at h
  cases hd : Text.decode n.marks.octets with
  | error m =>
    rw [hd] at h
    exact .inl ⟨m, rfl, (Except.error.inj h).symm⟩
  | ok t =>
    rw [hd] at h
    obtain ⟨scalar, octets⟩ := Text.decode_eq_ok_iff.1 hd
    by_cases dot : CodePoint.ofChar '.' ∈ t
    · simp only [if_pos dot] at h
      exact .inr ⟨t, scalar, octets, dot, (Except.error.inj h).symm⟩
    · simp only [if_neg dot] at h
      cases h

theorem declaredNames_eq_ok_iff {ms : List Node} : n.declaredNames origin = .ok ms ↔
    TopLevel.ofKind? n.kind ≠ none ∧ n.HasKnownSpecs ∧ ms = n.nameNodes := by
  unfold declaredNames HasKnownSpecs nameNodes
  cases hk : TopLevel.ofKind? n.kind with
  | none => simp
  | some top =>
    cases top with
    | ignored => simp [eq_comm]
    | function => simp [eq_comm]
    | declaration allowed =>
      simp only [Except.bind_eq_ok_iff, specs_eq_ok_iff]
      constructor
      · rintro ⟨specs, ⟨known, rfl⟩, h⟩
        refine ⟨nofun, fun _ hallowed => ?_, ?_⟩
        · cases hallowed
          exact known
        · rw [← Except.ok.inj h, List.flatMap_map]
      · rintro ⟨-, known, rfl⟩
        refine ⟨_, ⟨known allowed rfl, rfl⟩, ?_⟩
        rw [List.flatMap_map]
        rfl

theorem declaredNames_eq_error (h : n.declaredNames origin = .error f) : n.Offends origin f := by
  unfold declaredNames at h
  cases hk : TopLevel.ofKind? n.kind with
  | none =>
    simp only [hk, Except.error.injEq] at h
    exact h ▸ .kind hk
  | some top =>
    cases top with
    | ignored => simp [hk] at h
    | function => simp [hk] at h
    | declaration allowed =>
      simp only [hk] at h
      obtain h | ⟨_, _, h⟩ := Except.bind_eq_error_iff.1 h
      · obtain ⟨before, m, after, inner, known, unknown, rfl⟩ := specs_eq_error_iff.1 h
        exact .spec allowed before m after hk inner known unknown
      · cases h

/-- What a node at the top of a file exports, if it is sound. -/
theorem exportedBy_eq_ok_iff {names : List Text} : n.exportedBy origin = .ok names ↔
    n.IsSound ∧ ∃ ts, List.Forall₂ IsNamed n.nameNodes ts ∧ names = ts.filter isExported := by
  simp only [exportedBy, Except.bind_eq_ok_iff, declaredNames_eq_ok_iff]
  constructor
  · rintro ⟨ms, ⟨kind, specs, rfl⟩, ts, hts, h⟩
    refine ⟨⟨kind, specs, fun m hm => ?_⟩, ts, (mapM_name_eq_ok_iff origin).1 hts,
      (Except.ok.inj h).symm⟩
    obtain ⟨t, -, ht⟩ := Except.exists_of_mapM_eq_ok hts hm
    exact ⟨t, name_eq_ok_iff.1 ht⟩
  · rintro ⟨⟨kind, specs, -⟩, ts, hts, rfl⟩
    exact ⟨_, ⟨kind, specs, rfl⟩, ts, (mapM_name_eq_ok_iff origin).2 hts, rfl⟩

theorem exists_exportedBy_iff (origin : Text) {n : Node} :
    (∃ names, n.exportedBy origin = .ok names) ↔ n.IsSound := by
  constructor
  · rintro ⟨names, h⟩
    exact (exportedBy_eq_ok_iff.1 h).1
  · intro sound
    have each : ∀ m ∈ n.nameNodes, ∃ t, m.name origin = .ok t := fun m hm => by
      obtain ⟨t, ht⟩ := sound.names m hm
      exact ⟨t, name_eq_ok_iff.2 ht⟩
    obtain ⟨ts, hts⟩ := Except.exists_mapM_eq_ok_iff.2 each
    exact ⟨_, exportedBy_eq_ok_iff.2 ⟨sound, ts, (mapM_name_eq_ok_iff origin).1 hts, rfl⟩⟩

theorem exportedBy_eq_error (h : n.exportedBy origin = .error f) : n.Offends origin f := by
  obtain h | ⟨ms, hms, h⟩ := Except.bind_eq_error_iff.1 h
  · exact declaredNames_eq_error h
  · obtain ⟨kind, specs, rfl⟩ := declaredNames_eq_ok_iff.1 hms
    obtain h | ⟨_, _, h⟩ := Except.bind_eq_error_iff.1 h
    · obtain ⟨before, m, after, names, hbefore, hm⟩ := Except.mapM_eq_error_iff.1 h
      simp only [name_eq_ok_iff] at hbefore
      obtain ⟨malformed, refused, rfl⟩ | ⟨t, scalar, octets, dot, rfl⟩ := name_eq_error hm
      · refine .undecodable before m after malformed kind specs names hbefore refused ?_
        intro t scalar octets
        exact nomatch refused.symm.trans (Text.decode_eq_ok_iff.2 ⟨scalar, octets⟩)
      · exact .qualified before m after t kind specs names hbefore scalar octets dot
    · cases h

end names

/-! ## The nodes of a file -/

/-- The names that some nodes export are the exported ones among their names. -/
theorem flatten_of_exportedBy {origin : Text} {ns : List Node} {nss : List (List Text)}
    (h : List.Forall₂ (fun n names => n.exportedBy origin = .ok names) ns nss) :
    ∃ ts, List.Forall₂ IsNamed (ns.flatMap nameNodes) ts ∧ nss.flatten = ts.filter isExported := by
  induction h with
  | nil => exact ⟨[], .nil, rfl⟩
  | cons hn _ ih =>
    obtain ⟨-, ts, hts, rfl⟩ := exportedBy_eq_ok_iff.1 hn
    obtain ⟨us, hus, h⟩ := ih
    refine ⟨ts ++ us, List.rel_append hts hus, ?_⟩
    rw [List.flatten_cons, h, List.filter_append]

/-- **What is harvested from a tree** that is not said to have an error: names are given exactly
when every named node at its top is sound, and they are then the exported ones among the names of
all these nodes, in the order of the source and each as often as it is declared. Else the first
node that is not sound says what is refused. -/
theorem exportedNames_of_not_hasError (origin : Text) (root : Node)
    (clean : root.marks.hasError = false) :
    ((∃ names, root.exportedNames origin = .ok names) ↔ ∀ n ∈ root.namedChildren, n.IsSound) ∧
    (∀ names, root.exportedNames origin = .ok names →
      ∃ ts, List.Forall₂ IsNamed (root.namedChildren.flatMap nameNodes) ts ∧
        names = ts.filter isExported) ∧
    ∀ f, root.exportedNames origin = .error f → ∃ before n after,
      root.namedChildren = before ++ n :: after ∧ (∀ b ∈ before, b.IsSound) ∧
        n.Offends origin f := by
  have unfolded : root.exportedNames origin = (do
      let names ← root.namedChildren.mapM (exportedBy origin)
      return names.flatten) := by
    rw [exportedNames, clean]
    rfl
  rw [unfolded]
  refine ⟨?_, fun names h => ?_, fun f h => ?_⟩
  · simp only [← exists_exportedBy_iff origin, ← Except.exists_mapM_eq_ok_iff]
    constructor
    · rintro ⟨names, h⟩
      obtain ⟨nss, hnss, -⟩ := Except.bind_eq_ok_iff.1 h
      exact ⟨nss, hnss⟩
    · rintro ⟨nss, hnss⟩
      exact ⟨_, Except.bind_eq_ok_iff.2 ⟨nss, hnss, rfl⟩⟩
  · obtain ⟨nss, hnss, h⟩ := Except.bind_eq_ok_iff.1 h
    obtain rfl := Except.ok.inj h
    exact flatten_of_exportedBy (Except.mapM_eq_ok_iff.1 hnss)
  · obtain h | ⟨_, _, h⟩ := Except.bind_eq_error_iff.1 h
    · obtain ⟨before, n, after, hns, hbefore, hn⟩ := Except.mapM_eq_error_iff.1 h
      exact ⟨before, n, after, hns, fun b hb => (exists_exportedBy_iff origin).1 (hbefore b hb),
        exportedBy_eq_error hn⟩
    · cases h

/-- A file that declares the variables `X` and `y` in a list of specs. -/
def smallFile : Node :=
  plain "source_file" [
    plain "package_clause" [],
    plain "var_declaration" [
      plain "var_spec_list" [
        plain "comment" [],
        plain "var_spec" [leaf "identifier" "name" [0x58], leaf "identifier" "name" [0x79]]]]]

theorem exportedNames_smallFile : smallFile.marks.hasError = false ∧
    smallFile.exportedNames "small.go" = .ok ["X"] ∧ ∀ n ∈ smallFile.namedChildren, n.IsSound := by
  have clean : smallFile.marks.hasError = false := by decide +kernel
  have given : smallFile.exportedNames "small.go" = .ok ["X"] := by decide +kernel
  obtain ⟨sound, -, -⟩ := exportedNames_of_not_hasError "small.go" smallFile clean
  exact ⟨clean, given, sound.1 ⟨_, given⟩⟩

end Node

end GoLexicon.Syntax
