import GoLexicon.Proofs.FileSystem.Locations
import GoLexicon.Proofs.Json.Limits
import GoLexicon.Proofs.Scan.Blame
import GoLexicon.Settings
/-!
# Loading settings

Settings are loaded, or a diagnostic on the settings file says why they are not. What the members of
an object say is accepted (`Settings.IsOf`) or refused, and never is a fault
(`Settings.isAnswered_ofMembers`). Faults are left in two places: the length of a path is refused
before the file is read, and a document can be beyond the limits of the reader
(`Settings.load_answers_within_limits`).
-/

namespace GoLexicon

namespace Settings

variable {path : Path} {document : Text} {fs : FileSystem}

/-! ## What is refused -/

theorem isAnswered_refused {α : Type} (path : Path) (message : Text) (origin : Option Origin) :
    IsAnswered (.settings (some path.toText))
      (.error (refused path message origin) : Except Failure α) :=
  .diagnostic _ _

theorem isAnswered_modeOf (path : Path) (member : Option Json) :
    IsAnswered (.settings (some path.toText)) (modeOf path member) := by
  unfold modeOf
  split
  · exact .ok _
  · split
    · exact .ok _
    · exact isAnswered_refused _ _ _
  · exact isAnswered_refused _ _ _

theorem isAnswered_binaryOf (path : Path) (member : Option Json) :
    IsAnswered (.settings (some path.toText)) (binaryOf path member) := by
  unfold binaryOf
  split
  · exact .ok _
  · exact .ok _
  · exact isAnswered_refused _ _ _

theorem isAnswered_extraWordsOf (path : Path) (member : Option Json) :
    IsAnswered (.settings (some path.toText)) (extraWordsOf path member) := by
  unfold extraWordsOf
  split
  · exact .ok _
  · split
    · exact .ok _
    · exact isAnswered_refused _ _ _
  · exact isAnswered_refused _ _ _

/-- Whatever the members of an object say, it is accepted or refused with a diagnostic. -/
theorem isAnswered_ofMembers (path : Path) (members : List (Text × Json)) :
    IsAnswered (.settings (some path.toText)) (ofMembers path members) :=
  IsAnswered.bind_iff.2 ⟨isAnswered_modeOf _ _, fun _ _ =>
    IsAnswered.bind_iff.2 ⟨isAnswered_binaryOf _ _, fun _ _ =>
      IsAnswered.bind_iff.2 ⟨isAnswered_extraWordsOf _ _, fun _ _ => .ok _⟩⟩⟩

/-! ## What is accepted -/

/-- The members of an object say some settings: what they leave out is standard. -/
structure IsOf (s : Settings) (members : List (Text × Json)) : Prop where
  mode : Json.member? members "mode" = none ∧ s.mode = standard.mode ∨
    ∃ name, Json.member? members "mode" = some (.text name) ∧ Mode.ofName? name = some s.mode
  binary : (Json.member? members "go_binary").filter (·.isFilled) = none ∧
      s.binary = standard.binary ∨
    Json.member? members "go_binary" = some (.text s.binary) ∧ s.binary ≠ []
  extraWords : Json.member? members "extra_words" = none ∧ s.extraWords = standard.extraWords ∨
    Json.member? members "extra_words" = some (.list (s.extraWords.map .text))

theorem modeOf_eq_ok_iff {member : Option Json} {mode : Mode} : modeOf path member = .ok mode ↔
    member = none ∧ mode = standard.mode ∨
      ∃ name, member = some (.text name) ∧ Mode.ofName? name = some mode := by
  unfold modeOf
  split
  · simp [eq_comm]
  · next name =>
    cases h : Mode.ofName? name <;> simp [h]
  · next v hv =>
    refine ⟨nofun, ?_⟩
    rintro (⟨⟨⟩, -⟩ | ⟨name, ⟨⟩, -⟩)
    exact absurd rfl (hv name)

theorem binaryOf_eq_ok_iff {member : Option Json} {binary : Text} :
    binaryOf path member = .ok binary ↔
      member.filter (·.isFilled) = none ∧ binary = standard.binary ∨
        member = some (.text binary) ∧ binary ≠ [] := by
  unfold binaryOf
  split
  · next hnone =>
    have empty : ¬ (member = some (.text binary) ∧ binary ≠ []) := by
      rintro ⟨rfl, hbinary⟩
      simp [Json.isFilled, hbinary] at hnone
    simp [hnone, empty, eq_comm]
  · next t ht =>
    obtain ⟨rfl, hfilled⟩ := Option.filter_eq_some_iff.1 ht
    have ht' : t ≠ [] := by simpa [Json.isFilled] using hfilled
    constructor
    · rintro ⟨⟩
      exact .inr ⟨rfl, ht'⟩
    · rintro (⟨h, -⟩ | ⟨⟨⟩, -⟩)
      · exact nomatch ht.symm.trans h
      · rfl
  · next v hv hmember =>
    refine ⟨nofun, ?_⟩
    rintro (⟨h, -⟩ | ⟨rfl, -⟩)
    · exact nomatch hmember.symm.trans h
    · exact absurd (Option.some.inj (Option.filter_eq_some_iff.1 hmember).1).symm (hv binary)

theorem textOf?_eq_some_iff {v : Json} {t : Text} : textOf? v = some t ↔ v = .text t := by
  unfold textOf?
  split <;> simp_all

theorem mapM_textOf?_eq_some_iff {items : List Json} {words : List Text} :
    items.mapM textOf? = some words ↔ items = words.map .text := by
  induction items generalizing words with
  | nil =>
    rw [List.mapM_nil]
    cases words with
    | nil => exact ⟨fun _ => rfl, fun _ => rfl⟩
    | cons t words => exact ⟨nofun, nofun⟩
  | cons v items ih =>
    simp only [List.mapM_cons, Option.bind_eq_bind, Option.bind_eq_some_iff, textOf?_eq_some_iff,
      ih]
    cases words with
    | nil => simp
    | cons t words => simp

theorem extraWordsOf_eq_ok_iff {member : Option Json} {words : List Text} :
    extraWordsOf path member = .ok words ↔
      member = none ∧ words = standard.extraWords ∨ member = some (.list (words.map .text)) := by
  unfold extraWordsOf
  split
  · simp [eq_comm]
  · next items =>
    -- the texts of a list are known from it
    have texts : (items.mapM textOf? = some words) ↔ some (Json.list items) =
        some (.list (words.map .text)) := by
      rw [mapM_textOf?_eq_some_iff, Option.some_inj, Json.list.injEq]
    rw [← texts]
    cases items.mapM textOf? <;> simp
  · next v hv =>
    refine ⟨nofun, ?_⟩
    rintro (⟨⟨⟩, -⟩ | h)
    exact absurd (Option.some.inj h) (hv _)

/-- Members are accepted exactly if they say some settings, and then these are loaded. -/
theorem ofMembers_eq_ok_iff {members : List (Text × Json)} {s : Settings} :
    ofMembers path members = .ok s ↔ s.IsOf members := by
  obtain ⟨mode, binary, words⟩ := s
  constructor
  · intro h
    obtain ⟨mode', hmode, h⟩ := Except.bind_eq_ok_iff.1 h
    obtain ⟨binary', hbinary, h⟩ := Except.bind_eq_ok_iff.1 h
    obtain ⟨words', hwords, h⟩ := Except.bind_eq_ok_iff.1 h
    cases h
    exact ⟨modeOf_eq_ok_iff.1 hmode, binaryOf_eq_ok_iff.1 hbinary, extraWordsOf_eq_ok_iff.1 hwords⟩
  · intro h
    exact Except.bind_eq_ok_iff.2 ⟨mode, modeOf_eq_ok_iff.2 h.mode, Except.bind_eq_ok_iff.2
      ⟨binary, binaryOf_eq_ok_iff.2 h.binary, Except.bind_eq_ok_iff.2
        ⟨words, extraWordsOf_eq_ok_iff.2 h.extraWords, rfl⟩⟩⟩

/-! ## From a document -/

theorem isAnswered_ofDocument_iff :
    IsAnswered (.settings (some path.toText)) (ofDocument path document) ↔
      ¬ Json.Overstrains document := by
  unfold ofDocument
  split
  · next members hread =>
    refine ⟨?_, fun _ => isAnswered_ofMembers _ _⟩
    rintro - ⟨f, h, -⟩
    exact nomatch hread.symm.trans h
  · next hread =>
    refine ⟨?_, fun _ => isAnswered_refused _ _ _⟩
    rintro - ⟨f, h, -⟩
    exact nomatch hread.symm.trans h
  · next r hread =>
    refine ⟨?_, fun _ => isAnswered_refused _ _ _⟩
    rintro - ⟨f, h, hf⟩
    exact hf r (Except.error.inj (h.symm.trans hread))
  · next failure hfailure hread =>
    exact ⟨fun h => absurd h (IsAnswered.not_fault _),
      fun h => absurd ⟨failure, hread, hfailure⟩ h⟩

theorem ofDocument_eq_ok_iff {s : Settings} : ofDocument path document = .ok s ↔
    ∃ members, Json.read Json.nestingLimit document = .ok (.object members) ∧ s.IsOf members := by
  unfold ofDocument
  split
  · next members hread => simp [hread, ofMembers_eq_ok_iff]
  · next v hv hread =>
    refine ⟨nofun, fun ⟨members, h, _⟩ => ?_⟩
    exact absurd (Except.ok.inj (hread.symm.trans h)) (hv members)
  · next hread => simp [hread]
  · next hread => simp [hread]

/-! ## From a path -/

theorem load_of_look_none (h : fs.look path = .ok none) : load fs fs.read path = .ok standard := by
  have nothing : fs.exists? path = .ok false := by
    rw [FileSystem.exists?, h]
    rfl
  rw [load, nothing]

theorem load_of_isOverlong (h : fs.IsOverlong path) : load fs fs.read path =
    .error (.fault (.system ⟨.nameTooLong, path.toText, none⟩)) := by
  have refused : fs.exists? path = .error (.system ⟨.nameTooLong, path.toText, none⟩) := by
    rw [FileSystem.exists?, FileSystem.look_eq_error_iff.2 ⟨h, rfl⟩]
    rfl
  rw [load, refused]

theorem exists?_of_locate {found : Location} {entry : Entry}
    (h : fs.locate path = .ok (found, some entry)) : fs.exists? path = .ok true := by
  rw [FileSystem.exists?, FileSystem.look_eq_some_iff.2 ⟨found, h⟩]
  rfl

theorem load_of_file {found : Location} {content : Bytes}
    (h : fs.locate path = .ok (found, some (.file content))) :
    load fs fs.read path = ofDocument path (Text.decodeReplacing content) := by
  have text : FileReader.text fs.read path = .ok (Text.decodeReplacing content) := by
    rw [FileReader.text, FileSystem.read, h]
    rfl
  rw [load, exists?_of_locate h]
  simp only [text]

theorem load_of_directory {found : Location}
    (h : fs.locate path = .ok (found, some .directory)) : load fs fs.read path =
      .error (notLoaded path ⟨"FileReadError", "Failed to read file: " ++ path.toText⟩) := by
  have text : FileReader.text fs.read path =
      .error (unreadable path (Fault.system ⟨.isDirectory, path.toText, none⟩).origin) := by
    rw [FileReader.text, FileSystem.read, h]
    rfl
  rw [load, exists?_of_locate h]
  simp only [text]
  rfl

/-- What comes of loading, by what stands where the path leads. -/
theorem load_cases (fs : FileSystem) (path : Path) :
    (fs.IsOverlong path ∧
      load fs fs.read path = .error (.fault (.system ⟨.nameTooLong, path.toText, none⟩))) ∨
    (fs.look path = .ok none ∧ load fs fs.read path = .ok standard) ∨
    (fs.look path = .ok (some .directory) ∧ load fs fs.read path =
      .error (notLoaded path ⟨"FileReadError", "Failed to read file: " ++ path.toText⟩)) ∨
    ∃ found content, fs.locate path = .ok (found, some (.file content)) ∧
      load fs fs.read path = ofDocument path (Text.decodeReplacing content) := by
  cases hlook : fs.look path with
  | error fault =>
    have overlong : fs.IsOverlong path := (FileSystem.look_eq_error_iff.1 hlook).1
    exact .inl ⟨overlong, load_of_isOverlong overlong⟩
  | ok entry =>
    cases entry with
    | none => exact .inr (.inl ⟨rfl, load_of_look_none hlook⟩)
    | some entry =>
      obtain ⟨found, hfound⟩ := FileSystem.look_eq_some_iff.1 hlook
      cases entry with
      | directory => exact .inr (.inr (.inl ⟨rfl, load_of_directory hfound⟩))
      | file content => exact .inr (.inr (.inr ⟨found, content, hfound, load_of_file hfound⟩))

/-- Loading is answered unless a length is refused, or the document in the file is beyond the
reader. -/
theorem isAnswered_load_iff :
    IsAnswered (.settings (some path.toText)) (load fs fs.read path) ↔ ¬ fs.IsOverlong path ∧
      ∀ found content, fs.locate path = .ok (found, some (.file content)) →
        ¬ Json.Overstrains (Text.decodeReplacing content) := by
  have seen : ∀ {entry}, fs.look path = .ok entry → ¬ fs.IsOverlong path := fun hlook h =>
    nomatch hlook.symm.trans (FileSystem.look_eq_error_iff.2 ⟨h, rfl⟩)
  -- a file is nothing else
  have noFile : ∀ {entry}, fs.look path = .ok entry → (∀ content, entry ≠ some (.file content)) →
      ∀ found content, fs.locate path ≠ .ok (found, some (.file content)) := by
    intro entry hlook hentry found content h
    exact hentry content (Except.ok.inj
      (hlook.symm.trans (FileSystem.look_eq_some_iff.2 ⟨found, h⟩)))
  obtain ⟨overlong, h⟩ | ⟨hlook, h⟩ | ⟨hlook, h⟩ | ⟨found, content, hfound, h⟩ :=
    load_cases fs path <;> rw [h]
  · exact ⟨fun h => absurd h (IsAnswered.not_fault _), fun h => absurd overlong h.1⟩
  · exact ⟨fun _ => ⟨seen hlook, fun found content hfile =>
      absurd hfile (noFile hlook nofun found content)⟩, fun _ => .ok _⟩
  · exact ⟨fun _ => ⟨seen hlook, fun found content hfile =>
      absurd hfile (noFile hlook nofun found content)⟩, fun _ => isAnswered_refused _ _ _⟩
  · rw [isAnswered_ofDocument_iff]
    refine ⟨fun h => ⟨seen (FileSystem.look_eq_some_iff.2 ⟨found, hfound⟩), fun _ _ h' => ?_⟩,
      fun h => h.2 _ _ hfound⟩
    cases hfound.symm.trans h'
    exact h

/-- The settings that are loaded are the standard ones where nothing stands, or those that the
object in the file says. -/
theorem load_eq_ok_iff {s : Settings} : load fs fs.read path = .ok s ↔
    (fs.look path = .ok none ∧ s = standard) ∨
    ∃ found content members, fs.locate path = .ok (found, some (.file content)) ∧
      Json.read Json.nestingLimit (Text.decodeReplacing content) = .ok (.object members) ∧
      s.IsOf members := by
  constructor
  · intro h
    obtain ⟨-, h'⟩ | ⟨hlook, h'⟩ | ⟨-, h'⟩ | ⟨found, content, hfound, h'⟩ := load_cases fs path <;>
      rw [h'] at h
    · cases h
    · exact .inl ⟨hlook, (Except.ok.inj h).symm⟩
    · cases h
    · obtain ⟨members, hread, hs⟩ := ofDocument_eq_ok_iff.1 h
      exact .inr ⟨found, content, members, hfound, hread, hs⟩
  · rintro (⟨hlook, rfl⟩ | ⟨found, content, members, hfound, hread, hs⟩)
    · exact load_of_look_none hlook
    · rw [load_of_file hfound]
      exact ofDocument_eq_ok_iff.2 ⟨members, hread, hs⟩

/-- **Settings are loaded, or a diagnostic on their file says why they are not**, exactly if no
length is refused and no document is beyond the reader; for file systems here have no links and no
permissions, and refuse a path for nothing else. What is loaded is what the object in the file says,
or standard where nothing stands. -/
theorem load_answers_within_limits (fs : FileSystem) (path : Path) :
    (IsAnswered (.settings (some path.toText)) (load fs fs.read path) ↔ ¬ fs.IsOverlong path ∧
      ∀ found content, fs.locate path = .ok (found, some (.file content)) →
        ¬ Json.Overstrains (Text.decodeReplacing content)) ∧
    (∀ s, load fs fs.read path = .ok s ↔ (fs.look path = .ok none ∧ s = standard) ∨
      ∃ found content members, fs.locate path = .ok (found, some (.file content)) ∧
        Json.read Json.nestingLimit (Text.decodeReplacing content) = .ok (.object members) ∧
        s.IsOf members) ∧
    (FileSystem.octetCount path.toText < FileSystem.pathLimit →
      (∀ name ∈ path.names, FileSystem.octetCount name ≤ FileSystem.nameLimit) →
      (∀ found content, fs.locate path = .ok (found, some (.file content)) →
        Json.IsWithinLimits (Text.decodeReplacing content)) →
      IsAnswered (.settings (some path.toText)) (load fs fs.read path)) := by
  refine ⟨isAnswered_load_iff, fun s => load_eq_ok_iff, fun hpath hnames within => ?_⟩
  exact isAnswered_load_iff.2 ⟨FileSystem.not_isOverlong hpath hnames,
    fun found content h => (within found content h).not_overstrains⟩

/-- A file system with one entry in the current directory, under the name of a settings file. -/
def placed (entry : Entry) : FileSystem := ⟨[(["settings"], entry)], []⟩

theorem locate_placed (entry : Entry) :
    (placed entry).locate (Path.parse "settings") = .ok (["settings"], some entry) := rfl

theorem load_answers_placed :
    FileSystem.octetCount (Path.parse "settings").toText < FileSystem.pathLimit ∧
    (∀ name ∈ (Path.parse "settings").names,
      FileSystem.octetCount name ≤ FileSystem.nameLimit) ∧
    (∀ found content, (placed .directory).locate (Path.parse "settings") ≠
      .ok (found, some (.file content))) ∧
    IsAnswered (.settings (some "settings"))
      (load (placed .directory) (placed .directory).read (Path.parse "settings")) := by
  have hpath : FileSystem.octetCount (Path.parse "settings").toText < FileSystem.pathLimit := by
    decide
  have hnames : ∀ name ∈ (Path.parse "settings").names,
      FileSystem.octetCount name ≤ FileSystem.nameLimit := by decide
  have nofile : ∀ found content, (placed .directory).locate (Path.parse "settings") ≠
      .ok (found, some (.file content)) := nofun
  exact ⟨hpath, hnames, nofile, (load_answers_within_limits _ _).2.2 hpath hnames
    fun found content h => absurd h (nofile found content)⟩

/-- A name that is longer than a name may be. -/
def longName : Text := List.replicate (FileSystem.nameLimit + 1) (CodePoint.ofChar 'a')

/-- A name that is too long is no answer, and neither is a document of too many brackets. -/
theorem not_isAnswered_overlong :
    ¬ IsAnswered (.settings (some (Path.parse longName).toText))
      (load ⟨[], []⟩ (FileSystem.read ⟨[], []⟩) (Path.parse longName)) ∧
    ¬ IsAnswered (.settings (some "settings"))
      (load (placed (.file (Json.brackets (Json.nestingLimit + 1)).octets))
        (placed (.file (Json.brackets (Json.nestingLimit + 1)).octets)).read
        (Path.parse "settings")) := by
  refine ⟨fun h => ?_, fun h => ?_⟩
  · refine (isAnswered_load_iff.1 h).1 (FileSystem.isOverlong_iff.2 ⟨by decide +kernel, .inr ?_⟩)
    exact FileSystem.walk_eq_nameTooLong_iff.2
      ⟨[], longName, [], [], by decide +kernel, rfl, by decide, by decide +kernel⟩
  · have readable := (isAnswered_load_iff.1 h).2 _ _ (locate_placed _)
    rw [Text.decodeReplacing_of_decode
      (Text.decode_eq_ok_iff.2 ⟨Json.isScalar_brackets _, rfl⟩)] at readable
    exact readable Json.overstrains_brackets_succ

end Settings

end GoLexicon
