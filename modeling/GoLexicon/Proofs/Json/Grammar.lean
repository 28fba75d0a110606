import GoLexicon.Json.Reader
import GoLexicon.Proofs.Except
/-!
# What the reader accepts

The lexemes that write a value are given by a grammar (`Json.Writes`) that counts how many lists and
objects stand inside each other. The reader knows no grammar, only what is open and what is to come,
and it gives exactly the values that the grammar has (`Json.read_eq_ok_iff`).

That it gives no others is an invariant of its readings: the lexemes up to there open the frames and
write what these hold so far (`Json.Reading.Reaches`), and each token carries this on
(`Json.Reading.reaches_step`). That it gives all of them is proved on the grammar, by what some
lexemes make of a reading, whatever is behind them (`Json.Reading.Takes`).

A document that holds an object holds its members in some order, perhaps with the same name twice
(`Json.HoldsObject`). These are the documents from which objects are read
(`Json.HoldsObject.read_eq`, `Json.exists_holdsObject`).
-/

namespace GoLexicon.Json

/-! ## What lexemes write -/

/-- Null, the truth values and the numbers. -/
def isLeaf : Json → Bool
  | null | bool _ | integer _ | number _ => true
  | _ => false

/-- The lexemes of a member, from those of its value. -/
def lexemesOfMember (m : (Text × Json) × List Lexeme) : List Lexeme :=
  .string m.1.1 :: .colon :: m.2

/-- Some lexemes write a value, in which at most so many lists and objects stand inside each other.
Members of an object may have the same name. -/
inductive Writes : Nat → Json → List Lexeme → Prop where
  | text {n : Nat} (t : Text) : Writes n (.text t) [.string t]
  | leaf {n : Nat} {v : Json} (h : v.isLeaf = true) : Writes n v [.scalar v]
  | list {n : Nat} (items : List (Json × List Lexeme)) (h : ∀ i ∈ items, Writes n i.1 i.2) :
      Writes (n + 1) (.list (items.map (·.1)))
        (.openBracket :: (List.intercalate [.comma] (items.map (·.2)) ++ [.closeBracket]))
  | object {n : Nat} (members : List ((Text × Json) × List Lexeme))
      (h : ∀ m ∈ members, Writes n m.1.2 m.2) :
      Writes (n + 1) (ofMembers (members.map (·.1)))
        (.openBrace :: (List.intercalate [.comma] (members.map lexemesOfMember) ++ [.closeBrace]))

/-- No value begins with a closing bracket. -/
theorem Writes.exists_eq_cons {n : Nat} {v : Json} {ls : List Lexeme} (h : Writes n v ls) :
    ∃ l ls', ls = l :: ls' ∧ l ≠ .closeBracket := by
  cases h <;> exact ⟨_, _, rfl, nofun⟩

section intercalate

variable {α : Type} (separator : List α)

/-- What is between neighbours stands in front of each but the first. -/
theorem intercalate_cons (first : List α) (rest : List (List α)) :
    List.intercalate separator (first :: rest) = first ++ rest.flatMap (separator ++ ·) := by
  induction rest generalizing first with
  | nil => simp
  | cons second rest ih => simp [List.intercalate_cons_cons, ih]

/-- What is between neighbours stands behind each but the last. -/
theorem intercalate_concat (before : List (List α)) (last : List α) :
    List.intercalate separator (before ++ [last]) = before.flatMap (· ++ separator) ++ last := by
  induction before with
  | nil => simp
  | cons first before ih =>
    rw [List.flatMap_cons, List.append_assoc, ← ih]
    cases before with
    | nil => rw [List.nil_append, List.cons_append, List.nil_append, List.intercalate_cons_cons,
        List.append_assoc]
    | cons second before => rw [List.cons_append, List.cons_append, List.intercalate_cons_cons,
        List.append_assoc]

theorem mem_intercalate {a : α} {parts : List (List α)}
    (h : a ∈ List.intercalate separator parts) : a ∈ separator ∨ ∃ part ∈ parts, a ∈ part := by
  cases parts with
  | nil => exact absurd h List.not_mem_nil
  | cons first rest =>
    rw [intercalate_cons, List.mem_append, List.mem_flatMap] at h
    obtain h | ⟨part, hpart, h⟩ := h
    · exact .inr ⟨first, List.mem_cons_self, h⟩
    · exact (List.mem_append.1 h).imp_right fun h => ⟨part, List.mem_cons_of_mem _ hpart, h⟩

end intercalate

/-! ## Tokens that are values -/

section tokens

variable {c : CodePoint} {t : Text} {v : Json} {size : Nat}

theorem isLeaf_of_number? (h : number? t = some (.scalar v, size)) : v.isLeaf = true := by
  unfold number? at h
  extract_lets at h
  split at h
  · cases h
  · split at h
    · split at h
      · cases h
      · cases (Prod.mk.inj (Option.some.inj h)).1
        rfl
    · cases (Prod.mk.inj (Option.some.inj h)).1
      rfl

theorem isLeaf_of_word? (h : word? t = some (.scalar v, size)) : v.isLeaf = true := by
  obtain ⟨⟨spelling, w⟩, hmem, h⟩ := List.exists_of_findSome?_eq_some h
  have leaves : ∀ word ∈ words, word.2.isLeaf = true := by decide
  simp only at h
  split at h
  · cases h
    exact leaves _ hmem
  · cases h

theorem isLeaf_of_lexeme (h : lexeme c t = (.scalar v, size)) : v.isLeaf = true := by
  unfold lexeme at h
  -- what begins with a mark or a quote is no value
  repeat' split at h
  all_goals try cases h
  next hl =>
  cases hn : number? (c :: t) with
  | some found =>
    rw [hn] at hl
    exact isLeaf_of_number? (hn.trans hl)
  | none =>
    rw [hn] at hl
    exact isLeaf_of_word? hl

/-- A token of a text that is a value is null, a truth value or a number. -/
theorem isLeaf_of_mem_tokensFrom {position : Nat} :
    ∀ token ∈ tokensFrom position t, token.lexeme = .scalar v → v.isLeaf = true := by
  induction position, t using tokensFrom.induct with
  | case1 => simp [tokensFrom]
  | case2 position c rest hblank ih =>
    rw [tokensFrom, if_pos hblank]
    exact ih
  | case3 position c rest hblank l further hl ih =>
    rw [tokensFrom, if_neg hblank, hl]
    refine List.forall_mem_cons.2 ⟨?_, ih⟩
    rintro rfl
    exact isLeaf_of_lexeme hl

end tokens

namespace Reading

variable {depth : Nat} {r r' r'' : Reading} {frames : List Frame}

/-! ## Steps, by what is to come -/

section step

variable {t : Token}

/-- Behind an opening bracket a value begins as it does elsewhere. -/
theorem step_firstItem (h : t.lexeme ≠ .closeBracket) :
    step depth ⟨frames, .firstItem⟩ t = step depth ⟨frames, .value⟩ t := by
  obtain ⟨l, position⟩ := t
  cases l <;> first | rfl | exact absurd rfl h

theorem step_firstItem_cases {outer : List Frame} {items : List Json}
    (h : step depth ⟨.list items :: outer, .firstItem⟩ t = .ok r) :
    t.lexeme = .closeBracket ∧ r = supply outer (.list []) ∨
      beginValue depth (.list items :: outer) t = .ok r := by
  by_cases hl : t.lexeme = .closeBracket
  · obtain ⟨l, position⟩ := t
    subst hl
    exact .inl ⟨rfl, (Except.ok.inj h).symm⟩
  · rw [step_firstItem hl] at h
    exact .inr h

theorem beginName_eq_ok {outer : List Frame} {members : List (Text × Json)} {old : Text}
    (h : beginName (.object members old :: outer) t = .ok r) :
    ∃ name, t.lexeme = .string name ∧ r = ⟨.object members name :: outer, .colon⟩ := by
  unfold beginName at h
  split at h
  · next hl hframes =>
    cases hframes
    exact ⟨_, hl, (Except.ok.inj h).symm⟩
  all_goals cases h

theorem step_firstName_cases {outer : List Frame} {members : List (Text × Json)} {old : Text}
    (h : step depth ⟨.object members old :: outer, .firstName⟩ t = .ok r) :
    t.lexeme = .closeBrace ∧ r = supply outer (.object []) ∨
      beginName (.object members old :: outer) t = .ok r := by
  obtain ⟨l, position⟩ := t
  cases l with
  | closeBrace => exact .inl ⟨rfl, (Except.ok.inj h).symm⟩
  | _ => exact .inr h

theorem step_colon_eq_ok (h : step depth ⟨frames, .colon⟩ t = .ok r) :
    t.lexeme = .colon ∧ r = ⟨frames, .value⟩ := by
  obtain ⟨l, position⟩ := t
  cases l with
  | colon => exact ⟨rfl, (Except.ok.inj h).symm⟩
  | _ => exact nomatch h

theorem step_comma_list_cases {outer : List Frame} {items : List Json}
    (h : step depth ⟨.list items :: outer, .comma⟩ t = .ok r) :
    t.lexeme = .comma ∧ r = ⟨.list items :: outer, .value⟩ ∨
      t.lexeme = .closeBracket ∧ r = supply outer (.list items.reverse) := by
  obtain ⟨l, position⟩ := t
  cases l with
  | comma => exact .inl ⟨rfl, (Except.ok.inj h).symm⟩
  | closeBracket => exact .inr ⟨rfl, (Except.ok.inj h).symm⟩
  | _ => exact nomatch h

theorem step_comma_object_cases {outer : List Frame} {members : List (Text × Json)} {old : Text}
    (h : step depth ⟨.object members old :: outer, .comma⟩ t = .ok r) :
    t.lexeme = .comma ∧ r = ⟨.object members old :: outer, .name⟩ ∨
      t.lexeme = .closeBrace ∧ r = supply outer (ofMembers members.reverse) := by
  obtain ⟨l, position⟩ := t
  cases l with
  | comma => exact .inl ⟨rfl, (Except.ok.inj h).symm⟩
  | closeBrace => exact .inr ⟨rfl, (Except.ok.inj h).symm⟩
  | _ => exact nomatch h

end step

/-! ## What is read is written -/

/-- Some lexemes open the frames of a reading, up to a place where a value is to come. -/
inductive Opens (depth : Nat) : List Frame → List Lexeme → Prop where
  | nil : Opens depth [] []
  | list {outer : List Frame} {ls : List Lexeme} (items : List (Json × List Lexeme))
      (h : Opens depth outer ls) (room : outer.length < depth)
      (hitems : ∀ i ∈ items, Writes (depth - (outer.length + 1)) i.1 i.2) :
      Opens depth (.list (items.map (·.1)).reverse :: outer)
        (ls ++ .openBracket :: items.flatMap (·.2 ++ [.comma]))
  | object {outer : List Frame} {ls : List Lexeme} (members : List ((Text × Json) × List Lexeme))
      (name : Text) (h : Opens depth outer ls) (room : outer.length < depth)
      (hmembers : ∀ m ∈ members, Writes (depth - (outer.length + 1)) m.1.2 m.2) :
      Opens depth (.object (members.map (·.1)).reverse name :: outer)
        (ls ++ .openBrace :: (members.flatMap (lexemesOfMember · ++ [.comma])
          ++ [.string name, .colon]))

/-- Some lexemes have led to a reading. -/
inductive Reaches (depth : Nat) : List Lexeme → Reading → Prop where
  | value {frames : List Frame} {ls : List Lexeme} (h : Opens depth frames ls) :
      Reaches depth ls ⟨frames, .value⟩
  | firstItem {outer : List Frame} {ls : List Lexeme} (h : Opens depth outer ls)
      (room : outer.length < depth) :
      Reaches depth (ls ++ [.openBracket]) ⟨.list [] :: outer, .firstItem⟩
  | firstName {outer : List Frame} {ls : List Lexeme} (h : Opens depth outer ls)
      (room : outer.length < depth) :
      Reaches depth (ls ++ [.openBrace]) ⟨.object [] [] :: outer, .firstName⟩
  | name {outer : List Frame} {ls : List Lexeme} (members : List ((Text × Json) × List Lexeme))
      (old : Text) (h : Opens depth outer ls) (room : outer.length < depth)
      (hmembers : ∀ m ∈ members, Writes (depth - (outer.length + 1)) m.1.2 m.2) :
      Reaches depth (ls ++ .openBrace :: members.flatMap (lexemesOfMember · ++ [.comma]))
        ⟨.object (members.map (·.1)).reverse old :: outer, .name⟩
  | colon {outer : List Frame} {ls : List Lexeme} (members : List ((Text × Json) × List Lexeme))
      (name : Text) (h : Opens depth outer ls) (room : outer.length < depth)
      (hmembers : ∀ m ∈ members, Writes (depth - (outer.length + 1)) m.1.2 m.2) :
      Reaches depth
        (ls ++ .openBrace :: (members.flatMap (lexemesOfMember · ++ [.comma]) ++ [.string name]))
        ⟨.object (members.map (·.1)).reverse name :: outer, .colon⟩
  /-- A value is complete. -/
  | supplied {frames : List Frame} {ls ls' : List Lexeme} {v : Json} (h : Opens depth frames ls)
      (hv : Writes (depth - frames.length) v ls') : Reaches depth (ls ++ ls') (supply frames v)

section soundness

variable {ls : List Lexeme} {t : Token}

theorem reaches_of_beginValue (h : Opens depth frames ls)
    (leaf : ∀ v, t.lexeme = .scalar v → v.isLeaf = true)
    (hr : beginValue depth frames t = .ok r) : Reaches depth (ls ++ [t.lexeme]) r := by
  unfold beginValue at hr
  split at hr
  · next hl =>
    cases hr
    rw [hl]
    exact .supplied h (.text _)
  · next hl =>
    cases hr
    rw [hl]
    exact .supplied h (.leaf (leaf _ hl))
  · next hl =>
    split at hr
    · cases hr
    · next room =>
      cases hr
      rw [hl]
      exact .firstName h (Nat.lt_of_not_le room)
  · next hl =>
    split at hr
    · cases hr
    · next room =>
      cases hr
      rw [hl]
      exact .firstItem h (Nat.lt_of_not_le room)
  all_goals cases hr

/-- What is inside one more list or object. -/
theorem writes_list {outer : List Frame} (room : outer.length < depth)
    (items : List (Json × List Lexeme))
    (h : ∀ i ∈ items, Writes (depth - (outer.length + 1)) i.1 i.2) :
    Writes (depth - outer.length) (.list (items.map (·.1)))
      (.openBracket :: (List.intercalate [.comma] (items.map (·.2)) ++ [.closeBracket])) := by
  have inside : depth - outer.length = depth - (outer.length + 1) + 1 := by omega
  rw [inside]
  exact .list items h

theorem writes_object {outer : List Frame} (room : outer.length < depth)
    (members : List ((Text × Json) × List Lexeme))
    (h : ∀ m ∈ members, Writes (depth - (outer.length + 1)) m.1.2 m.2) :
    Writes (depth - outer.length) (ofMembers (members.map (·.1))) (.openBrace ::
      (List.intercalate [.comma] (members.map lexemesOfMember) ++ [.closeBrace])) := by
  have inside : depth - outer.length = depth - (outer.length + 1) + 1 := by omega
  rw [inside]
  exact .object members h

/-- A name is read where the lexemes so far open an object and write its members. -/
theorem reaches_of_beginName {outer : List Frame} (members : List ((Text × Json) × List Lexeme))
    {old : Text} (h : Opens depth outer ls) (room : outer.length < depth)
    (hmembers : ∀ m ∈ members, Writes (depth - (outer.length + 1)) m.1.2 m.2)
    (hr : beginName (.object (members.map (·.1)).reverse old :: outer) t = .ok r) :
    Reaches depth
      (ls ++ .openBrace :: members.flatMap (lexemesOfMember · ++ [.comma]) ++ [t.lexeme]) r := by
  obtain ⟨name, hl, rfl⟩ := beginName_eq_ok hr
  rw [hl, List.append_assoc, List.cons_append]
  exact .colon members name h room hmembers

/-- What is behind a value that is complete. -/
theorem reaches_of_supplied {ls' : List Lexeme} {v : Json} (h : Opens depth frames ls)
    (hv : Writes (depth - frames.length) v ls') (hr : step depth (supply frames v) t = .ok r) :
    Reaches depth (ls ++ ls' ++ [t.lexeme]) r := by
  cases h with
  | nil => exact nomatch hr
  | @list outer ls items h room hitems =>
    have hitems : ∀ i ∈ items ++ [(v, ls')], Writes (depth - (outer.length + 1)) i.1 i.2 :=
      List.forall_mem_append.2 ⟨hitems, List.forall_mem_singleton.2 hv⟩
    obtain ⟨hl, rfl⟩ | ⟨hl, rfl⟩ := step_comma_list_cases hr
    · have further := Reaches.value (Opens.list _ h room hitems)
      simpa [hl] using further
    · have complete := Reaches.supplied h (writes_list room _ hitems)
      simpa [hl, intercalate_concat, List.flatMap_map] using complete
  | @object outer ls members name h room hmembers =>
    have hmembers : ∀ m ∈ members ++ [((name, v), ls')],
        Writes (depth - (outer.length + 1)) m.1.2 m.2 :=
      List.forall_mem_append.2 ⟨hmembers, List.forall_mem_singleton.2 hv⟩
    obtain ⟨hl, rfl⟩ | ⟨hl, rfl⟩ := step_comma_object_cases hr
    · have further := Reaches.name _ name h room hmembers
      simpa [hl, lexemesOfMember] using further
    · have complete := Reaches.supplied h (writes_object room _ hmembers)
      simpa [hl, lexemesOfMember, intercalate_concat, List.flatMap_map] using complete

/-- A token that is read comes behind the lexemes that have led to the reading. -/
theorem reaches_step (h : Reaches depth ls r) (leaf : ∀ v, t.lexeme = .scalar v → v.isLeaf = true)
    (hr : step depth r t = .ok r') : Reaches depth (ls ++ [t.lexeme]) r' := by
  cases h with
  | value h => exact reaches_of_beginValue h leaf hr
  | @firstItem outer ls h room =>
    obtain ⟨hl, rfl⟩ | hr := step_firstItem_cases hr
    · rw [hl, List.append_assoc]
      exact .supplied h (writes_list room [] nofun)
    · exact reaches_of_beginValue (.list [] h room nofun) leaf hr
  | @firstName outer ls h room =>
    obtain ⟨hl, rfl⟩ | hr := step_firstName_cases hr
    · rw [hl, List.append_assoc]
      exact .supplied h (writes_object room [] nofun)
    · exact reaches_of_beginName [] h room nofun hr
  | name members old h room hmembers => exact reaches_of_beginName members h room hmembers hr
  | @colon outer ls members name h room hmembers =>
    obtain ⟨hl, rfl⟩ := step_colon_eq_ok hr
    have opened := Reaches.value (Opens.object members name h room hmembers)
    simpa [hl] using opened
  | supplied h hv => exact reaches_of_supplied h hv hr

theorem writes_of_finish {position : Nat} {v : Json} (h : Reaches depth ls r)
    (hr : r.finish position = .ok v) : Writes depth v ls := by
  cases h with
  | supplied h hv =>
    cases h with
    | nil =>
      cases hr
      exact hv
    | list | object => exact nomatch hr
  | _ => exact nomatch hr

/-- The lexemes in front of a reading, and those that it still reads, write the value it gives. -/
theorem writes_of_run {position : Nat} {v : Json} {ts : List Token} (h : Reaches depth ls r)
    (leaf : ∀ t ∈ ts, ∀ v, t.lexeme = .scalar v → v.isLeaf = true)
    (hr : run depth position r ts = .ok v) : Writes depth v (ls ++ ts.map (·.lexeme)) := by
  -- on the tokens; what they have led to is carried along
  induction ts generalizing ls r with
  | nil =>
    rw [List.map_nil, List.append_nil]
    exact writes_of_finish h hr
  | cons t ts ih =>
    obtain ⟨ht, hts⟩ := List.forall_mem_cons.1 leaf
    obtain ⟨r', hstep, hrun⟩ := Except.bind_eq_ok_iff.1 hr
    have whole := ih (reaches_step h ht hstep) hts hrun
    rwa [List.append_assoc] at whole

end soundness

/-! ## What is written is read -/

/-- Some lexemes take one reading to another one, wherever they stand and whatever is behind. -/
def Takes (depth : Nat) (r : Reading) (ls : List Lexeme) (r' : Reading) : Prop :=
  ∀ (ts rest : List Token) (position : Nat), ts.map (·.lexeme) = ls →
    run depth position r (ts ++ rest) = run depth position r' rest

namespace Takes

variable {l : Lexeme} {ls ls' : List Lexeme} {n : Nat}

theorem nil : Takes depth r [] r := by
  intro ts rest position h
  rw [List.map_eq_nil_iff.1 h, List.nil_append]

theorem cons (h : ∀ position, step depth r ⟨l, position⟩ = .ok r') (h' : Takes depth r' ls r'') :
    Takes depth r (l :: ls) r'' := by
  intro ts rest position hts
  obtain ⟨t, ts, rfl, rfl, hrest⟩ := List.map_eq_cons_iff.1 hts
  rw [List.cons_append, run, h t.position]
  exact h' ts rest position hrest

theorem append (h : Takes depth r ls r') (h' : Takes depth r' ls' r'') :
    Takes depth r (ls ++ ls') r'' := by
  intro ts rest position hts
  obtain ⟨ts, ts', rfl, hfirst, hsecond⟩ := List.map_eq_append_iff.1 hts
  rw [List.append_assoc, h ts _ position hfirst, h' ts' rest position hsecond]

/-- Lexemes that are repeated for the items of a list. -/
theorem flatMap {ι : Type} {lexemes : ι → List Lexeme} {is : List ι} (state : List ι → Reading)
    (h : ∀ i ∈ is, ∀ done, Takes depth (state done) (lexemes i) (state (i :: done)))
    (done : List ι) :
    Takes depth (state done) (is.flatMap lexemes) (state (is.reverse ++ done)) := by
  induction is generalizing done with
  | nil => exact nil
  | cons i is ih =>
    obtain ⟨hi, his⟩ := List.forall_mem_cons.1 h
    rw [List.flatMap_cons, List.reverse_cons, List.append_assoc]
    exact (hi done).append (ih his (i :: done))

/-- Behind an opening bracket a value is read as it is elsewhere. -/
theorem firstItem {v : Json} (hv : Writes n v ls) (h : Takes depth ⟨frames, .value⟩ ls r) :
    Takes depth ⟨frames, .firstItem⟩ ls r := by
  obtain ⟨l, ls, rfl, hl⟩ := hv.exists_eq_cons
  intro ts rest position hts
  rw [← h ts rest position hts]
  obtain ⟨t, ts, rfl, rfl, -⟩ := List.map_eq_cons_iff.1 hts
  rw [List.cons_append, run, step_firstItem hl, run]

/-- The items of a list, up to its closing bracket. -/
theorem items {items : List (Json × List Lexeme)} (hitems : ∀ i ∈ items, Writes n i.1 i.2)
    (h : ∀ i ∈ items, ∀ frame, Takes depth ⟨frame :: frames, .value⟩ i.2
      (supply (frame :: frames) i.1)) :
    Takes depth ⟨.list [] :: frames, .firstItem⟩
      (List.intercalate [.comma] (items.map (·.2)) ++ [.closeBracket])
      (supply frames (.list (items.map (·.1)))) := by
  cases items with
  | nil => exact cons (fun _ => rfl) nil
  | cons i items =>
    obtain ⟨hi, hfurther⟩ := List.forall_mem_cons.1 h
    have further : Takes depth ⟨.list [i.1] :: frames, .comma⟩
        (items.flatMap fun i => .comma :: i.2)
        ⟨.list ((items.reverse ++ [i]).map (·.1)) :: frames, .comma⟩ :=
      flatMap (fun done => ⟨.list (done.map (·.1)) :: frames, .comma⟩)
        (fun i hi done => cons (fun _ => rfl) (hfurther i hi (.list (done.map (·.1))))) [i]
    have close : Takes depth ⟨.list ((items.reverse ++ [i]).map (·.1)) :: frames, .comma⟩
        [.closeBracket] (supply frames (.list ((i :: items).map (·.1)))) := by
      refine cons (fun _ => ?_) nil
      have order : ((items.reverse ++ [i]).map (·.1)).reverse = (i :: items).map (·.1) := by simp
      rw [← order]
      rfl
    rw [List.map_cons, intercalate_cons, List.flatMap_map, List.append_assoc]
    exact (firstItem (hitems i List.mem_cons_self) (hi (.list []))).append (further.append close)

/-- A member of an object, where its name is to come. -/
theorem member {m : (Text × Json) × List Lexeme} {done : List (Text × Json)} {old : Text}
    {want : Want} (hwant : want = .name ∨ want = .firstName)
    (h : ∀ frame, Takes depth ⟨frame :: frames, .value⟩ m.2 (supply (frame :: frames) m.1.2)) :
    Takes depth ⟨.object done old :: frames, want⟩ (lexemesOfMember m)
      ⟨.object (m.1 :: done) m.1.1 :: frames, .comma⟩ := by
  have name : ∀ position, step depth ⟨.object done old :: frames, want⟩ ⟨.string m.1.1, position⟩ =
      .ok ⟨.object done m.1.1 :: frames, .colon⟩ := by
    intro position
    obtain rfl | rfl := hwant <;> rfl
  have colon : ∀ position, step depth ⟨.object done m.1.1 :: frames, .colon⟩ ⟨.colon, position⟩ =
      .ok ⟨.object done m.1.1 :: frames, .value⟩ := fun _ => rfl
  exact cons name (cons colon (h (.object done m.1.1)))

/-- The members of an object, up to its closing brace. -/
theorem members {members : List ((Text × Json) × List Lexeme)}
    (h : ∀ m ∈ members, ∀ frame, Takes depth ⟨frame :: frames, .value⟩ m.2
      (supply (frame :: frames) m.1.2)) :
    Takes depth ⟨.object [] [] :: frames, .firstName⟩
      (List.intercalate [.comma] (members.map lexemesOfMember) ++ [.closeBrace])
      (supply frames (ofMembers (members.map (·.1)))) := by
  cases members with
  | nil => exact cons (fun _ => rfl) nil
  | cons m members =>
    obtain ⟨hm, hmembers⟩ := List.forall_mem_cons.1 h
    -- the name that was read last is the name of the member before
    have further : Takes depth ⟨.object [m.1] m.1.1 :: frames, .comma⟩
        (members.flatMap fun m => .comma :: lexemesOfMember m)
        ⟨.object ((members.reverse ++ [m]).map (·.1))
          ((members.reverse ++ [m]).head?.elim [] (·.1.1)) :: frames, .comma⟩ := by
      refine flatMap (fun done =>
        ⟨.object (done.map (·.1)) (done.head?.elim [] (·.1.1)) :: frames, .comma⟩)
        (fun m hm done => ?_) [m]
      have comma : ∀ done old position, step depth ⟨.object done old :: frames, .comma⟩
          ⟨.comma, position⟩ = .ok ⟨.object done old :: frames, .name⟩ := fun _ _ _ => rfl
      exact cons (comma _ _) (member (.inl rfl) (hmembers m hm))
    have close : ∀ name, Takes depth
        ⟨.object ((members.reverse ++ [m]).map (·.1)) name :: frames, .comma⟩
        [.closeBrace] (supply frames (ofMembers ((m :: members).map (·.1)))) := by
      intro name
      refine cons (fun _ => ?_) nil
      have order : ((members.reverse ++ [m]).map (·.1)).reverse = (m :: members).map (·.1) := by
        simp
      rw [← order]
      rfl
    rw [List.map_cons, intercalate_cons, List.flatMap_map, List.append_assoc]
    exact (member (.inr rfl) hm).append (further.append (close _))

/-- The lexemes of a value supply it, where enough lists and objects may still be opened. -/
theorem of_writes {v : Json} (h : Writes n v ls) (enough : frames.length + n ≤ depth) :
    Takes depth ⟨frames, .value⟩ ls (supply frames v) := by
  induction h generalizing frames with
  | text | leaf => exact cons (fun _ => rfl) nil
  | list _ hitems ih =>
    refine cons (fun position => ?_) (items hitems fun i hi frame => ih i hi ?_)
    · change (if depth ≤ frames.length then _ else _) = _
      rw [if_neg (by omega)]
    · rw [List.length_cons]
      omega
  | object _ _ ih =>
    refine cons (fun position => ?_) (members fun m hm frame => ih m hm ?_)
    · change (if depth ≤ frames.length then _ else _) = _
      rw [if_neg (by omega)]
    · rw [List.length_cons]
      omega

end Takes

end Reading

section read

variable {depth n : Nat} {document : Text} {v : Json}

/-- A value is read from each text whose tokens write it. -/
theorem read_of_writes (enough : n ≤ depth)
    (mark : document.head?.any (·.val = 0xFEFF) = false)
    (h : Writes n v ((tokens document).map (·.lexeme))) : read depth document = .ok v := by
  have takes : Reading.Takes depth ⟨[], .value⟩ ((tokens document).map (·.lexeme))
      (Reading.supply [] v) := .of_writes h (by simpa using enough)
  have run : Reading.run depth document.length ⟨[], .value⟩ (tokens document) = .ok v := by
    have whole := takes (tokens document) [] document.length rfl
    rw [List.append_nil] at whole
    exact whole
  rw [read, mark, if_neg Bool.false_ne_true, run]

/-- **The reader gives a value exactly for the documents that write it**: no byte order mark stands
in front, and the tokens are the lexemes of the value by the grammar. -/
theorem read_eq_ok_iff : read depth document = .ok v ↔
    document.head?.any (·.val = 0xFEFF) = false ∧
      Writes depth v ((tokens document).map (·.lexeme)) := by
  refine ⟨fun h => ?_, fun ⟨mark, h⟩ => read_of_writes (Nat.le_refl _) mark h⟩
  unfold read at h
  split at h
  · cases h
  · next mark =>
    split at h
    · next hrun =>
      cases h
      exact ⟨Bool.eq_false_iff.2 mark, Reading.writes_of_run (.value .nil)
        (fun t ht v => isLeaf_of_mem_tokensFrom t ht) hrun⟩
    all_goals cases h

end read

/-! ## Objects -/

/-- A text is a document of an object that has some members, in the order of the document. Inside
their values, one list or object less may be open than in the document. -/
structure HoldsObject (document : Text) (members : List (Text × Json)) : Prop where
  mark : document.head?.any (·.val = 0xFEFF) = false
  writes : ∃ written : List ((Text × Json) × List Lexeme), written.map (·.1) = members ∧
    (∀ m ∈ written, Writes (nestingLimit - 1) m.1.2 m.2) ∧
    (tokens document).map (·.lexeme) =
      .openBrace :: (List.intercalate [.comma] (written.map lexemesOfMember) ++ [.closeBrace])

section objects

variable {document : Text} {members : List (Text × Json)}

theorem HoldsObject.read_eq (h : HoldsObject document members) :
    read nestingLimit document = .ok (ofMembers members) := by
  obtain ⟨written, rfl, hwritten, hlexemes⟩ := h.writes
  refine read_eq_ok_iff.2 ⟨h.mark, ?_⟩
  rw [hlexemes]
  exact .object written hwritten

/-- Each object that is read is held by its document, with its members as they stand there. -/
theorem exists_holdsObject (h : read nestingLimit document = .ok (.object members)) :
    ∃ raw, HoldsObject document raw ∧ ofMembers raw = .object members := by
  obtain ⟨mark, h⟩ := read_eq_ok_iff.1 h
  generalize hdepth : nestingLimit = depth at h
  generalize hls : (tokens document).map (·.lexeme) = ls at h
  generalize hv : Json.object members = v at h
  cases h with
  | text | list => exact nomatch hv
  | leaf hleaf => exact nomatch hv ▸ hleaf
  | object written hwritten =>
    exact ⟨written.map (·.1), ⟨mark, written, rfl, by rwa [hdepth], hls⟩, rfl⟩

end objects

end GoLexicon.Json
