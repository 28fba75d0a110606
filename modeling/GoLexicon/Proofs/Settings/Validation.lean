import GoLexicon.Proofs.Json.Documents
import GoLexicon.Proofs.Settings
/-!
# Which settings are refused

Three members of the object in a settings file count, whatever else it has, and of several members
of one name the last one. Settings are refused exactly if one of the three is wrong, with a message
on the first that is (`Settings.Refuses`), and otherwise are what the members say
(`Settings.load_of_holdsObject`).

The program has to be a text, or null where it is left to the standard. A value that says nothing is
not told from null here, so zero, false, and what is empty are no reason to refuse settings
(`Settings.load_listBinary`).
-/

namespace GoLexicon.Settings

/-! ## What a member has to be -/

/-- The value names a mode. -/
def IsMode (v : Json) : Prop := v = .text "strict" ∨ v = .text "verbatim"

/-- The value names a program, or leaves it to the standard. -/
def IsBinary (v : Json) : Prop := v = .null ∨ ∃ t, v = .text t

/-- The value lists words. -/
def IsWords (v : Json) : Prop := ∃ words : List Text, v = .list (words.map .text)

/-- A member is there and is not what it has to be. -/
def IsWrong (expected : Json → Prop) (member : Option Json) : Prop :=
  ∃ v, member = some v ∧ ¬ expected v

/-- Why the members of an object are refused: the message is on the first that is wrong, where a
program that says nothing is not. -/
inductive Refuses (path : Path) (members : List (Text × Json)) : Failure → Prop where
  | mode {v : Json} (h : Json.member? members "mode" = some v) (wrong : ¬ IsMode v) :
      Refuses path members (unknownMode path v)
  | binary (mode : ¬ IsWrong IsMode (Json.member? members "mode"))
      (wrong : IsWrong IsBinary ((Json.member? members "go_binary").filter (·.isFilled))) :
      Refuses path members (refused path ("'go_binary' must be a string in " ++ path.toText) none)
  | extraWords (mode : ¬ IsWrong IsMode (Json.member? members "mode"))
      (binary : ¬ IsWrong IsBinary ((Json.member? members "go_binary").filter (·.isFilled)))
      (wrong : IsWrong IsWords (Json.member? members "extra_words")) :
      Refuses path members
        (refused path ("'extra_words' must be a list of strings in " ++ path.toText) none)

variable {path : Path} {member : Option Json} {f : Failure} {members : List (Text × Json)}

theorem isMode_text_iff {t : Text} : IsMode (.text t) ↔ ∃ mode, Mode.ofName? t = some mode := by
  unfold IsMode Mode.ofName? Mode.name
  simp only [Json.text.injEq]
  split
  · next h => simp [h]
  · next h =>
    split
    · next h' => simp [h']
    · next h' => simp [h, h']

theorem modeOf_eq_error_iff : modeOf path member = .error f ↔
    ∃ v, member = some v ∧ ¬ IsMode v ∧ unknownMode path v = f := by
  unfold modeOf
  split
  · simp
  · next t =>
    cases h : Mode.ofName? t with
    | some mode =>
      have right : IsMode (.text t) := isMode_text_iff.2 ⟨mode, h⟩
      simp [right]
    | none =>
      have wrong : ¬ IsMode (.text t) := fun hmode => by simpa [h] using isMode_text_iff.1 hmode
      simp [wrong]
  · next v hv =>
    have wrong : ¬ IsMode v := by
      rintro (rfl | rfl)
      all_goals exact hv _ rfl
    simp [wrong]

theorem binaryOf_eq_error_iff : binaryOf path member = .error f ↔
    IsWrong IsBinary (member.filter (·.isFilled)) ∧
      refused path ("'go_binary' must be a string in " ++ path.toText) none = f := by
  unfold binaryOf
  split
  · next h => simp [IsWrong, h]
  · next t h => simp [IsWrong, IsBinary, h]
  · next v hv h =>
    have wrong : ¬ IsBinary v := by
      rintro (rfl | ⟨t, rfl⟩)
      · exact nomatch (Option.filter_eq_some_iff.1 h).2
      · exact hv t rfl
    simp [IsWrong, h, wrong]

theorem extraWordsOf_eq_error_iff : extraWordsOf path member = .error f ↔
    IsWrong IsWords member ∧
      refused path ("'extra_words' must be a list of strings in " ++ path.toText) none = f := by
  unfold extraWordsOf
  split
  · simp [IsWrong]
  · next items =>
    -- the texts of a list are known from it
    have texts : IsWords (.list items) ↔ ∃ words, items.mapM textOf? = some words := by
      simp only [IsWords, Json.list.injEq, mapM_textOf?_eq_some_iff]
    cases h : items.mapM textOf? with
    | some words => simp [IsWrong, texts, h]
    | none => simp [IsWrong, texts, h]
  · next v hv =>
    have wrong : ¬ IsWords v := fun ⟨_, h⟩ => hv _ h
    simp [IsWrong, wrong]

/-- A step gives something where it has no reason to fail. -/
theorem exists_eq_ok_iff {α : Type} {x : Except Failure α} {wrong : Prop}
    (h : (∃ f, x = .error f) ↔ wrong) : (∃ a, x = .ok a) ↔ ¬ wrong := by
  rw [← h]
  cases x <;> simp

theorem exists_modeOf_eq_ok_iff : (∃ mode, modeOf path member = .ok mode) ↔
    ¬ IsWrong IsMode member := by
  refine exists_eq_ok_iff ?_
  simp only [modeOf_eq_error_iff]
  exact ⟨fun ⟨_, v, h, wrong, _⟩ => ⟨v, h, wrong⟩, fun ⟨v, h, wrong⟩ => ⟨_, v, h, wrong, rfl⟩⟩

theorem exists_binaryOf_eq_ok_iff : (∃ binary, binaryOf path member = .ok binary) ↔
    ¬ IsWrong IsBinary (member.filter (·.isFilled)) := by
  refine exists_eq_ok_iff ?_
  simp [binaryOf_eq_error_iff]

/-! ## What becomes of an object -/

/-- The members are refused with a message on the first that is wrong. -/
theorem ofMembers_eq_error_iff : ofMembers path members = .error f ↔ Refuses path members f := by
  constructor
  · intro h
    obtain h | ⟨mode, hmode, h⟩ := Except.bind_eq_error_iff.1 h
    · obtain ⟨v, hv, wrong, rfl⟩ := modeOf_eq_error_iff.1 h
      exact .mode hv wrong
    have mode := exists_modeOf_eq_ok_iff.1 ⟨mode, hmode⟩
    obtain h | ⟨binary, hbinary, h⟩ := Except.bind_eq_error_iff.1 h
    · obtain ⟨wrong, rfl⟩ := binaryOf_eq_error_iff.1 h
      exact .binary mode wrong
    have binary := exists_binaryOf_eq_ok_iff.1 ⟨binary, hbinary⟩
    obtain h | ⟨_, _, h⟩ := Except.bind_eq_error_iff.1 h
    · obtain ⟨wrong, rfl⟩ := extraWordsOf_eq_error_iff.1 h
      exact .extraWords mode binary wrong
    · cases h
  · intro h
    cases h with
    | mode h wrong =>
      exact Except.bind_eq_error_iff.2 (.inl (modeOf_eq_error_iff.2 ⟨_, h, wrong, rfl⟩))
    | binary mode wrong =>
      obtain ⟨mode, hmode⟩ := exists_modeOf_eq_ok_iff.2 mode
      exact Except.bind_eq_error_iff.2 (.inr ⟨mode, hmode, Except.bind_eq_error_iff.2
        (.inl (binaryOf_eq_error_iff.2 ⟨wrong, rfl⟩))⟩)
    | extraWords mode binary wrong =>
      obtain ⟨mode, hmode⟩ := exists_modeOf_eq_ok_iff.2 mode
      obtain ⟨binary, hbinary⟩ := exists_binaryOf_eq_ok_iff.2 binary
      exact Except.bind_eq_error_iff.2 (.inr ⟨mode, hmode, Except.bind_eq_error_iff.2
        (.inr ⟨binary, hbinary, Except.bind_eq_error_iff.2
          (.inl (extraWordsOf_eq_error_iff.2 ⟨wrong, rfl⟩))⟩)⟩)

/-- The names of the members that count. -/
def memberNames : List Text := ["mode", "go_binary", "extra_words"]

/-- Nothing but these members makes a difference. -/
theorem ofMembers_congr {members' : List (Text × Json)}
    (h : ∀ name ∈ memberNames, Json.member? members name = Json.member? members' name) :
    ofMembers path members = ofMembers path members' := by
  unfold ofMembers
  rw [h "mode" (by simp [memberNames]), h "go_binary" (by simp [memberNames]),
    h "extra_words" (by simp [memberNames])]

/-- The members are refused exactly if one of them is wrong. -/
theorem exists_refuses_iff : (∃ f, Refuses path members f) ↔
    IsWrong IsMode (Json.member? members "mode") ∨
    IsWrong IsBinary ((Json.member? members "go_binary").filter (·.isFilled)) ∨
    IsWrong IsWords (Json.member? members "extra_words") := by
  constructor
  · rintro ⟨f, ⟨h, wrong⟩ | ⟨-, wrong⟩ | ⟨-, -, wrong⟩⟩
    · exact .inl ⟨_, h, wrong⟩
    · exact .inr (.inl wrong)
    · exact .inr (.inr wrong)
  · intro h
    by_cases mode : IsWrong IsMode (Json.member? members "mode")
    · obtain ⟨v, h, wrong⟩ := mode
      exact ⟨_, .mode h wrong⟩
    by_cases binary : IsWrong IsBinary ((Json.member? members "go_binary").filter (·.isFilled))
    · exact ⟨_, .binary mode binary⟩
    · exact ⟨_, .extraWords mode binary ((h.resolve_left mode).resolve_left binary)⟩

/-- Leaving out what says nothing makes no difference where only null or a text does so. -/
theorem isWrong_filter_iff (h : ∀ v, member = some v → v.isFilled = false → IsBinary v) :
    IsWrong IsBinary (member.filter (·.isFilled)) ↔ IsWrong IsBinary member := by
  constructor
  · rintro ⟨v, hv, wrong⟩
    exact ⟨v, (Option.filter_eq_some_iff.1 hv).1, wrong⟩
  · rintro ⟨v, hv, wrong⟩
    have filled : v.isFilled = true := by
      by_contra hfilled
      exact wrong (h v hv (Bool.eq_false_iff.2 hfilled))
    exact ⟨v, Option.filter_eq_some_iff.2 ⟨hv, filled⟩, wrong⟩

/-- Each refusal is a diagnostic on the settings file. -/
theorem Refuses.exists_eq (h : Refuses path members f) :
    ∃ message origin, f = refused path message origin := by
  cases h <;> exact ⟨_, _, rfl⟩

variable {fs : FileSystem} {found : Location} {content : Bytes}

/-- The object in a file makes the settings that its last members of each name make. -/
theorem load_eq_ofMembers (hfile : fs.locate path = .ok (found, some (.file content)))
    (hobject : Json.HoldsObject (Text.decodeReplacing content) members) :
    load fs fs.read path = ofMembers path members.reverse := by
  rw [load_of_file hfile, ofDocument, hobject.read_eq]
  exact ofMembers_congr fun name _ => Json.member?_foldl_withMember members name

/-- A file that holds an object of plain members, as it is written. -/
theorem holdsObject_written (names : ∀ m ∈ members, m.1.IsScalar)
    (values : ∀ m ∈ members, Json.IsPlain (Json.nestingLimit - 1) m.2) :
    Json.HoldsObject (Text.decodeReplacing (Json.written (.object members)).octets) members := by
  have document : Json.IsDocumentOf (Json.written (.object members)) (.object members) :=
    Json.isDocumentOf_objectWritten _ names
      fun m hm => Json.isDocumentOf_writtenWith _ (values m hm)
  have scalar : (Json.written (.object members)).IsScalar :=
    document.isScalar (Json.isScalar_of_mem_objectLexemes names
      fun m hm => (values m hm).isScalar_of_mem_lexemes)
  rw [Text.decodeReplacing_of_decode (Text.decode_eq_ok_iff.2 ⟨scalar, rfl⟩)]
  exact document.holdsObject values

/-- **An object in the settings file is refused exactly if one of three members is wrong**, with the
message on the first of them, and otherwise the settings are what they say. No other member counts,
and of several members of one name the last one does. -/
theorem load_of_holdsObject (hfile : fs.locate path = .ok (found, some (.file content)))
    (hobject : Json.HoldsObject (Text.decodeReplacing content) members) :
    (∀ f, load fs fs.read path = .error f ↔ Refuses path members.reverse f) ∧
    ((∃ message origin, load fs fs.read path = .error (refused path message origin)) ↔
      IsWrong IsMode (Json.lastMember? members "mode") ∨
      IsWrong IsBinary ((Json.lastMember? members "go_binary").filter (·.isFilled)) ∨
      IsWrong IsWords (Json.lastMember? members "extra_words")) ∧
    ((∀ v, Json.lastMember? members "go_binary" = some v → v.isFilled = false → IsBinary v) →
      ((∃ message origin, load fs fs.read path = .error (refused path message origin)) ↔
        IsWrong IsMode (Json.lastMember? members "mode") ∨
        IsWrong IsBinary (Json.lastMember? members "go_binary") ∨
        IsWrong IsWords (Json.lastMember? members "extra_words"))) ∧
    (∀ s, load fs fs.read path = .ok s ↔ s.IsOf members.reverse) ∧
    ∀ (fs' : FileSystem) (found' : Location) (content' : Bytes) (members' : List (Text × Json)),
      fs'.locate path = .ok (found', some (.file content')) →
      Json.HoldsObject (Text.decodeReplacing content') members' →
      (∀ name ∈ memberNames, Json.lastMember? members' name = Json.lastMember? members name) →
      load fs' fs'.read path = load fs fs.read path := by
  rw [load_eq_ofMembers hfile hobject]
  have refused_iff : (∃ message origin, ofMembers path members.reverse =
      .error (refused path message origin)) ↔ ∃ f, Refuses path members.reverse f := by
    simp only [ofMembers_eq_error_iff]
    constructor
    · rintro ⟨message, origin, h⟩
      exact ⟨_, h⟩
    · rintro ⟨f, h⟩
      obtain ⟨message, origin, rfl⟩ := h.exists_eq
      exact ⟨message, origin, h⟩
  rw [refused_iff, exists_refuses_iff]
  refine ⟨fun f => ofMembers_eq_error_iff, Iff.rfl, fun silent => ?_,
    fun s => ofMembers_eq_ok_iff, ?_⟩
  · exact or_congr_right (or_congr_left (isWrong_filter_iff silent))
  · intro fs' found' content' members' hfile' hobject' same
    rw [load_eq_ofMembers hfile' hobject']
    exact ofMembers_congr same

/-- An object with a name that comes twice, and an empty program. -/
def twice : List (Text × Json) :=
  [("mode", .text "loud"), ("go_binary", .text []), ("mode", .text "verbatim")]

theorem holdsObject_twice :
    Json.HoldsObject (Text.decodeReplacing (Json.written (.object twice)).octets) twice := by
  refine holdsObject_written ?_ ?_ <;> simp only [twice, List.forall_mem_cons]
  · exact ⟨Text.isScalar_ofString _, Text.isScalar_ofString _, Text.isScalar_ofString _, nofun⟩
  · exact ⟨.text (Text.isScalar_ofString _), .text nofun, .text (Text.isScalar_ofString _), nofun⟩

theorem load_of_holdsObject_twice :
    (placed (.file (Json.written (.object twice)).octets)).locate (Path.parse "settings") =
      .ok (["settings"], some (.file (Json.written (.object twice)).octets)) ∧
    Json.HoldsObject (Text.decodeReplacing (Json.written (.object twice)).octets) twice ∧
    (∀ v, Json.lastMember? twice "go_binary" = some v → v.isFilled = false → IsBinary v) ∧
    load (placed (.file (Json.written (.object twice)).octets))
        (placed (.file (Json.written (.object twice)).octets)).read (Path.parse "settings") =
      .ok ⟨.verbatim, "go", []⟩ ∧
    ¬ (IsWrong IsMode (Json.lastMember? twice "mode") ∨
      IsWrong IsBinary (Json.lastMember? twice "go_binary") ∨
      IsWrong IsWords (Json.lastMember? twice "extra_words")) := by
  have hfile := locate_placed (.file (Json.written (.object twice)).octets)
  have silent : ∀ v, Json.lastMember? twice "go_binary" = some v → v.isFilled = false →
      IsBinary v := by
    intro v hv _
    cases hv
    exact .inr ⟨[], rfl⟩
  obtain ⟨-, -, hrefused, hloaded, -⟩ := load_of_holdsObject hfile holdsObject_twice
  have loaded := (hloaded ⟨.verbatim, "go", []⟩).2
    ⟨.inr ⟨"verbatim", rfl, rfl⟩, .inl ⟨rfl, rfl⟩, .inl ⟨rfl, rfl⟩⟩
  refine ⟨hfile, holdsObject_twice, silent, loaded, fun wrong => ?_⟩
  obtain ⟨message, origin, h⟩ := (hrefused silent).2 wrong
  exact nomatch loaded.symm.trans h

/-- An object in which the program is the empty list. -/
def listBinary : List (Text × Json) := [("go_binary", .list [])]

theorem holdsObject_listBinary :
    Json.HoldsObject (Text.decodeReplacing (Json.written (.object listBinary)).octets)
      listBinary := by
  refine holdsObject_written ?_ ?_ <;> simp only [listBinary, List.forall_mem_cons]
  · exact ⟨Text.isScalar_ofString _, nofun⟩
  · exact ⟨.list nofun, nofun⟩

/-- The empty list is no program, and settings are loaded with it as if there were none. -/
theorem load_listBinary :
    Json.HoldsObject (Text.decodeReplacing (Json.written (.object listBinary)).octets) listBinary ∧
    IsWrong IsBinary (Json.lastMember? listBinary "go_binary") ∧
    load (placed (.file (Json.written (.object listBinary)).octets))
      (placed (.file (Json.written (.object listBinary)).octets)).read (Path.parse "settings") =
        .ok standard := by
  refine ⟨holdsObject_listBinary, ⟨.list [], rfl, ?_⟩, ?_⟩
  · rintro (h | ⟨_, h⟩) <;> cases h
  · rw [load_eq_ofMembers (locate_placed _) holdsObject_listBinary]
    exact ofMembers_eq_ok_iff.2 ⟨.inl ⟨rfl, rfl⟩, .inl ⟨rfl, rfl⟩, .inl ⟨rfl, rfl⟩⟩

end GoLexicon.Settings
