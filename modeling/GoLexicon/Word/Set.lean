import GoLexicon.Fault
/-!
# Sets of words

A set of words is the ascending list of its members, so two sets with the same members are equal,
and its members come out in order. Texts are ordered by code points. The empty text is never a
member.

Values that are no texts can get into a set where names come from outside. They are kept apart, in
`others`; a set that holds both cannot be put in order.
-/

namespace GoLexicon

namespace Text

/-- An ascending list with one more text, unless the list has it. -/
def insertInto (w : Text) : List Text → List Text
  | [] => [w]
  | v :: rest =>
    if w < v then w :: v :: rest
    else if v < w then v :: insertInto w rest
    else v :: rest

theorem mem_of_mem_insertInto {w x : Text} {l : List Text} (h : x ∈ insertInto w l) :
    x = w ∨ x ∈ l := by
  induction l with
  | nil => simpa [insertInto] using h
  | cons v rest ih =>
    unfold insertInto at h
    split at h
    · simpa using h
    · split at h
      · rcases List.mem_cons.1 h with rfl | h
        · simp
        · rcases ih h with h | h <;> simp [h]
      · exact .inr h

theorem ascending_insertInto {w : Text} {l : List Text} (h : l.Pairwise (· < ·)) :
    (insertInto w l).Pairwise (· < ·) := by
  induction l with
  | nil => simp [insertInto]
  | cons v rest ih =>
    have hv := List.pairwise_cons.1 h
    unfold insertInto
    split
    · next hw =>
      refine List.pairwise_cons.2 ⟨fun x hx => ?_, h⟩
      rcases List.mem_cons.1 hx with rfl | hx
      · exact hw
      · exact List.lt_trans hw (hv.1 x hx)
    · split
      · next hw =>
        refine List.pairwise_cons.2 ⟨fun x hx => ?_, ih hv.2⟩
        rcases mem_of_mem_insertInto hx with rfl | hx
        · exact hw
        · exact hv.1 x hx
      · exact h

end Text

/-- A set of words. -/
structure WordSet where
  words : List Text
  /-- The members that are no texts, as they came. -/
  others : List Json
  ascending : words.Pairwise (· < ·)
  filled : [] ∉ words

namespace WordSet

/-- The set without members. -/
def empty : WordSet := ⟨[], [], .nil, by simp⟩

instance : EmptyCollection WordSet := ⟨empty⟩

/-- The set with one more word. The empty text changes nothing. -/
def add (s : WordSet) (w : Text) : WordSet :=
  if h : w = [] then s
  else
    { s with
      words := Text.insertInto w s.words
      ascending := Text.ascending_insertInto s.ascending
      filled := fun hm => (Text.mem_of_mem_insertInto hm).elim (fun e => h e.symm) s.filled }

/-- The set with some more words. -/
def addAll (s : WordSet) (ws : List Text) : WordSet := ws.foldl add s

/-- The set of some words. -/
def ofList (ws : List Text) : WordSet := empty.addAll ws

/-- How many members a set has. -/
def size (s : WordSet) : Nat := s.words.length + s.others.length

instance : Membership Text WordSet := ⟨fun s w => w ∈ s.words⟩

instance (w : Text) (s : WordSet) : Decidable (w ∈ s) := inferInstanceAs (Decidable (w ∈ s.words))

/-! ## Values from outside -/

/-- Lists and objects cannot be looked for. -/
def unfit (v : Json) : Fault := .wrongKind ("unhashable type: " ++ v.kindName.quoted)

/-- Can a value be looked for? -/
def isFit : Json → Bool
  | .list _ | .object _ => false
  | _ => true

/-- The set with one more value, which may be no text. A value that says nothing changes nothing. -/
def addValue (s : WordSet) (v : Json) : Except Fault WordSet :=
  match v with
  | .text w => .ok (s.add w)
  | v =>
    if !v.isFilled then .ok s
    else if !isFit v then .error (unfit v)
    else if s.others.any (·.sameScalar v) then .ok s
    else .ok { s with others := s.others ++ [v] }

/-- The set with some more values, up to the first that cannot be added. -/
def addValues (s : WordSet) : List Json → WordSet × Option Fault
  | [] => (s, none)
  | v :: rest =>
    match s.addValue v with
    | .ok s => s.addValues rest
    | .error fault => (s, some fault)

/-- Is a value a member? -/
def hasValue (s : WordSet) (v : Json) : Except Fault Bool :=
  match v with
  | .text w => .ok (w ∈ s)
  | v => if isFit v then .ok (s.others.any (·.sameScalar v)) else .error (unfit v)

/-- The members in order. -/
def sorted (s : WordSet) : Except Fault (List Json) :=
  match s.words, s.others with
  | words, [] => .ok (words.map .text)
  | [], others => .ok (others.mergeSort Json.countAtMost)
  | _, v :: _ =>
    .error (.wrongKind
      ("'<' not supported between instances of " ++ v.kindName.quoted ++ " and 'str'"))

/-- A set as a message shows it. -/
def shown (s : WordSet) : Text := "WordSet(" ++ Text.ofNat s.size ++ " words)"

end WordSet

end GoLexicon
