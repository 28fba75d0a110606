import GoLexicon.Proofs.Package.Answers
/-!
# What is checked of a package

Of what a toolchain says about a package no more is checked than that directory and name say
anything. If one of them does not, this is the diagnostic. Otherwise a package is made of what is
there, of whatever kind (`Package.IsOf`), unless it is of a kind that cannot be made use of at all,
which is a fault (`Package.IsWrongKind`).

So the package is what it should be (`Package.IsSound`) exactly if the members of the object are
(`Package.IsWellTyped`). `Toolchain.resolve_isValidated_iff` says this of every object that a
toolchain prints.
-/

namespace GoLexicon

namespace Json

/-- Is a value a text? -/
def isText : Json → Bool
  | text _ => true
  | _ => false

/-- Can something be taken out of a value piece by piece? -/
def isCollection : Json → Bool
  | text _ => true
  | list _ => true
  | object _ => true
  | _ => false

theorem isText_iff {v : Json} : v.isText = true ↔ ∃ t, v = .text t := by
  cases v <;> simp [isText]

/-- The values that are texts are all values of a list only if the list is made of texts. -/
theorem filter_isText_eq_self_iff {items : List Json} :
    items.filter isText = items ↔ ∃ ts : List Text, items = ts.map .text := by
  constructor
  · intro h
    rw [List.filter_eq_self] at h
    induction items with
    | nil => exact ⟨[], rfl⟩
    | cons v items ih =>
      obtain ⟨t, rfl⟩ := isText_iff.1 (h v (by simp))
      obtain ⟨ts, rfl⟩ := ih fun w hw => h w (by simp [hw])
      exact ⟨t :: ts, rfl⟩
  · rintro ⟨ts, rfl⟩
    rw [List.filter_eq_self, List.forall_mem_map]
    exact fun t _ => rfl

end Json

namespace Package

variable {importPath : Text} {info : List (Text × Json)} {member : Option Json} {v : Json}
  {k : Package}

/-! ## What a package is made of -/

theorem filled?_eq_some_iff : filled? member = some v ↔ member = some v ∧ v.isFilled = true :=
  Option.filter_eq_some_iff

theorem filled?_eq_some_text_iff {t : Text} :
    filled? member = some (.text t) ↔ member = some (.text t) ∧ t ≠ [] := by
  rw [filled?_eq_some_iff, Json.isFilled]
  simp

/-- The diagnostic on a package of which too little is known. -/
def incomplete (importPath : Text) : Failure :=
  unresolved (some importPath) ("Incomplete package metadata for " ++ importPath.quoted) none

/-- Directory or name are not given, or say nothing. -/
def IsIncomplete (info : List (Text × Json)) : Prop :=
  filled? (Json.member? info "Dir") = none ∨ filled? (Json.member? info "Name") = none

/-- The directory is no text, or nothing can be taken out of what should be the files. -/
def IsWrongKind (info : List (Text × Json)) : Prop :=
  (∃ v, filled? (Json.member? info "Dir") = some v ∧ v.isText = false) ∨
    ∃ v, filled? (Json.member? info "GoFiles") = some v ∧ v.isCollection = false

/-- The file names that a member holds. -/
def filesOf : Option Json → Except Failure (List Json)
  | none => .ok []
  | some v => fileNamesOf v

/-- A package is made of what is known of an import path, of whatever kind that is. -/
structure IsOf (importPath : Text) (info : List (Text × Json)) (k : Package) : Prop where
  directory : ∃ t, filled? (Json.member? info "Dir") = some (.text t) ∧ k.directory = Path.parse t
  name : filled? (Json.member? info "Name") = some k.name
  importPath : k.importPath = (filled? (Json.member? info "ImportPath")).getD (.text importPath)
  files : filesOf (filled? (Json.member? info "GoFiles")) = .ok k.files

theorem directoryOf_of_not_isText (h : v.isText = false) :
    ∃ words, directoryOf v = .error (.fault (.wrongKind words)) := by
  cases v with
  | text t => cases h
  | _ => exact ⟨_, rfl⟩

theorem isCollection_of_filesOf {files : List Json} (h : filesOf (some v) = .ok files) :
    v.isCollection = true := by
  cases v with
  | text | list | object => rfl
  | _ => cases h

theorem exists_of_filesOf_error {f : Failure} (h : filesOf member = .error f) :
    ∃ v, member = some v ∧ v.isCollection = false ∧ ∃ words, f = .fault (.wrongKind words) := by
  cases member with
  | none => cases h
  | some v =>
    refine ⟨v, rfl, ?_⟩
    cases v with
    | text | list | object => cases h
    | _ => exact ⟨rfl, _, (Except.error.inj h).symm⟩

/-- With a directory and a name at hand, it is the files that decide. -/
theorem ofInfo_of_text {t : Text} {name : Json}
    (hdirectory : filled? (Json.member? info "Dir") = some (.text t))
    (hname : filled? (Json.member? info "Name") = some name) : ofInfo importPath info =
      (filesOf (filled? (Json.member? info "GoFiles"))).map fun files =>
        ⟨(filled? (Json.member? info "ImportPath")).getD (.text importPath), Path.parse t, files,
          name⟩ := by
  rw [ofInfo, hdirectory, hname]
  cases filled? (Json.member? info "GoFiles") with
  | none => rfl
  | some v =>
    simp only [directoryOf, filesOf]
    cases fileNamesOf v <;> rfl

/-- The three things that can come of what is known of an import path. -/
theorem ofInfo_cases (importPath : Text) (info : List (Text × Json)) :
    (IsIncomplete info ∧ ofInfo importPath info = .error (incomplete importPath)) ∨
    (¬ IsIncomplete info ∧ IsWrongKind info ∧
      ∃ words, ofInfo importPath info = .error (.fault (.wrongKind words))) ∨
    (¬ IsIncomplete info ∧ ¬ IsWrongKind info ∧
      ∃ k, ofInfo importPath info = .ok k ∧ IsOf importPath info k) := by
  cases hdirectory : filled? (Json.member? info "Dir") with
  | none =>
    refine .inl ⟨.inl hdirectory, ?_⟩
    rw [ofInfo, hdirectory]
    rfl
  | some directory =>
    cases hname : filled? (Json.member? info "Name") with
    | none =>
      refine .inl ⟨.inr hname, ?_⟩
      rw [ofInfo, hdirectory, hname]
      rfl
    | some name =>
      have complete : ¬ IsIncomplete info := by simp [IsIncomplete, hdirectory, hname]
      refine .inr ?_
      cases hkind : directory.isText with
      | false =>
        obtain ⟨words, hwords⟩ := directoryOf_of_not_isText hkind
        refine .inl ⟨complete, .inl ⟨directory, hdirectory, hkind⟩, words, ?_⟩
        rw [ofInfo, hdirectory, hname]
        simp only [hwords]
        rfl
      | true =>
        obtain ⟨t, rfl⟩ := Json.isText_iff.1 hkind
        rw [ofInfo_of_text hdirectory hname]
        cases hfiles : filesOf (filled? (Json.member? info "GoFiles")) with
        | error f =>
          obtain ⟨v, hv, hcollection, words, rfl⟩ := exists_of_filesOf_error hfiles
          exact .inl ⟨complete, .inr ⟨v, hv, hcollection⟩, words, rfl⟩
        | ok files =>
          refine .inr ⟨complete, ?_, _, rfl, ⟨t, hdirectory, rfl⟩, hname, rfl, hfiles⟩
          rintro (⟨v, hv, hnot⟩ | ⟨v, hv, hnot⟩)
          · obtain rfl := Option.some.inj (hdirectory.symm.trans hv)
            cases hnot
          · rw [hv] at hfiles
            rw [isCollection_of_filesOf hfiles] at hnot
            cases hnot

namespace IsOf

/-- There is one package at most that is made of what is known. -/
theorem unique {k' : Package} (h : IsOf importPath info k) (h' : IsOf importPath info k') :
    k = k' := by
  obtain ⟨t, hdirectory, rdirectory⟩ := h.directory
  obtain ⟨t', hdirectory', rdirectory'⟩ := h'.directory
  have directory : k.directory = k'.directory := by
    obtain rfl : t = t' := by simpa using hdirectory.symm.trans hdirectory'
    rw [rdirectory, rdirectory']
  have name : k.name = k'.name := Option.some.inj (h.name.symm.trans h'.name)
  have path : k.importPath = k'.importPath := h.importPath.trans h'.importPath.symm
  have files : k.files = k'.files := Except.ok.inj (h.files.symm.trans h'.files)
  cases k
  cases k'
  simp only at directory name path files
  subst directory name path files
  rfl

theorem not_isIncomplete (h : IsOf importPath info k) : ¬ IsIncomplete info := by
  obtain ⟨t, hdirectory, -⟩ := h.directory
  simp [IsIncomplete, hdirectory, h.name]

theorem not_isWrongKind (h : IsOf importPath info k) : ¬ IsWrongKind info := by
  obtain ⟨t, hdirectory, -⟩ := h.directory
  rintro (⟨v, hv, hkind⟩ | ⟨v, hv, hkind⟩)
  · obtain rfl := Option.some.inj (hdirectory.symm.trans hv)
    cases hkind
  · have files := h.files
    rw [hv] at files
    rw [isCollection_of_filesOf files] at hkind
    cases hkind

theorem files_eq_nil (h : IsOf importPath info k)
    (hnone : filled? (Json.member? info "GoFiles") = none) : k.files = [] := by
  have files := h.files
  rw [hnone] at files
  exact (Except.ok.inj files).symm

/-- A list gives its items, also where it is empty and says nothing. -/
theorem files_eq_items (h : IsOf importPath info k) {items : List Json}
    (hitems : Json.member? info "GoFiles" = some (.list items)) : k.files = items := by
  cases items with
  | nil => exact h.files_eq_nil (by rw [hitems]; rfl)
  | cons v items =>
    have files := h.files
    rw [hitems, filled?_eq_some_iff.2 ⟨rfl, rfl⟩] at files
    exact (Except.ok.inj files).symm

end IsOf

theorem ofInfo_eq_ok_iff : ofInfo importPath info = .ok k ↔ IsOf importPath info k := by
  obtain ⟨hincomplete, h⟩ | ⟨-, hkind, words, h⟩ | ⟨-, -, k', h, hk'⟩ :=
    ofInfo_cases importPath info
  · rw [h]
    exact ⟨nofun, fun hk => absurd hincomplete hk.not_isIncomplete⟩
  · rw [h]
    exact ⟨nofun, fun hk => absurd hkind hk.not_isWrongKind⟩
  · rw [h, Except.ok.injEq]
    constructor
    · rintro rfl
      exact hk'
    · exact fun hk => hk'.unique hk

theorem exists_wrongKind_iff :
    (∃ words, ofInfo importPath info = .error (.fault (.wrongKind words))) ↔
      ¬ IsIncomplete info ∧ IsWrongKind info := by
  obtain ⟨hincomplete, h⟩ | ⟨complete, hkind, words, h⟩ | ⟨complete, hkind, k, h, -⟩ :=
    ofInfo_cases importPath info
  · simp [h, hincomplete, incomplete, unresolved]
  · simp [h, complete, hkind]
  · simp [h, complete, hkind]

theorem isAnswered_ofInfo_iff : IsAnswered (.resolution (some importPath)) (ofInfo importPath info) ↔
    IsIncomplete info ∨ ¬ IsWrongKind info := by
  obtain ⟨hincomplete, h⟩ | ⟨complete, hkind, words, h⟩ | ⟨complete, hkind, k, h, -⟩ :=
    ofInfo_cases importPath info
  · rw [h]
    exact ⟨fun _ => .inl hincomplete, fun _ => .diagnostic _ _⟩
  · rw [h]
    exact ⟨fun answered => absurd answered (IsAnswered.not_fault _), by simp [complete, hkind]⟩
  · rw [h]
    exact ⟨fun _ => .inr hkind, fun _ => .ok k⟩

/-! ## What a package should be -/

/-- A package is what it should be after what is known of it: import path and name are texts that say
something, the directory is the one that is named, and the files are the texts among those that are
listed, in order. -/
structure IsSound (info : List (Text × Json)) (k : Package) : Prop where
  importPath : ∃ t : Text, t ≠ [] ∧ k.importPath = .text t
  name : ∃ t : Text, t ≠ [] ∧ k.name = .text t
  directory : ∃ t : Text, Json.member? info "Dir" = some (.text t) ∧ k.directory = Path.parse t
  files : (Json.member? info "GoFiles" = none ∨ Json.member? info "GoFiles" = some .null) ∧
      k.files = [] ∨
    ∃ items, Json.member? info "GoFiles" = some (.list items) ∧ k.files = items.filter Json.isText

/-- The members that describe a package are of the kinds that they should be. -/
structure IsWellTyped (importPath : Text) (info : List (Text × Json)) : Prop where
  directory : ∃ t : Text, t ≠ [] ∧ Json.member? info "Dir" = some (.text t)
  name : ∃ t : Text, t ≠ [] ∧ Json.member? info "Name" = some (.text t)
  importPath : filled? (Json.member? info "ImportPath") = none ∧ importPath ≠ [] ∨
    ∃ t : Text, t ≠ [] ∧ Json.member? info "ImportPath" = some (.text t)
  files : Json.member? info "GoFiles" = none ∨ Json.member? info "GoFiles" = some .null ∨
    ∃ files : List Text, Json.member? info "GoFiles" = some (.list (files.map .text))

theorem IsWellTyped.not_isWrongKind (h : IsWellTyped importPath info) : ¬ IsWrongKind info := by
  obtain ⟨t, ht, hdirectory⟩ := h.directory
  rintro (⟨v, hv, hkind⟩ | ⟨v, hv, hkind⟩)
  · obtain ⟨hv, -⟩ := filled?_eq_some_iff.1 hv
    obtain rfl := Option.some.inj (hdirectory.symm.trans hv)
    cases hkind
  · obtain ⟨hv, hfilled⟩ := filled?_eq_some_iff.1 hv
    obtain hnone | hnull | ⟨files, hlist⟩ := h.files
    · cases hnone.symm.trans hv
    · obtain rfl := Option.some.inj (hnull.symm.trans hv)
      cases hfilled
    · obtain rfl := Option.some.inj (hlist.symm.trans hv)
      cases hkind

/-- What a package is made of makes it what it should be exactly if it is of the right kinds. -/
theorem IsOf.isSound_iff (h : IsOf importPath info k) :
    IsSound info k ↔ IsWellTyped importPath info := by
  obtain ⟨t, hdirectory, rdirectory⟩ := h.directory
  obtain ⟨hdir, hne⟩ := filled?_eq_some_text_iff.1 hdirectory
  have path := h.importPath
  constructor
  · rintro ⟨⟨path', hpath', rpath⟩, ⟨name, hname, rname⟩, -, files⟩
    refine ⟨⟨t, hne, hdir⟩, ⟨name, hname, ?_⟩, ?_, ?_⟩
    · exact (filled?_eq_some_text_iff.1 (rname ▸ h.name)).1
    · rw [rpath] at path
      cases hfilled : filled? (Json.member? info "ImportPath") with
      | none =>
        rw [hfilled, Option.getD_none, Json.text.injEq] at path
        exact .inl ⟨rfl, path ▸ hpath'⟩
      | some v =>
        rw [hfilled, Option.getD_some] at path
        subst path
        exact .inr ⟨path', hpath', (filled?_eq_some_iff.1 hfilled).1⟩
    · rcases files with ⟨hnone | hnull, -⟩ | ⟨items, hitems, rfiles⟩
      · exact .inl hnone
      · exact .inr (.inl hnull)
      · rw [h.files_eq_items hitems] at rfiles
        obtain ⟨ts, rfl⟩ := Json.filter_isText_eq_self_iff.1 rfiles.symm
        exact .inr (.inr ⟨ts, hitems⟩)
  · rintro ⟨-, ⟨name, hname, rname⟩, hpath, files⟩
    refine ⟨?_, ⟨name, hname, ?_⟩, ⟨t, hdir, rdirectory⟩, ?_⟩
    · rcases hpath with ⟨hnone, hpath⟩ | ⟨path', hpath', rpath⟩
      · rw [hnone] at path
        exact ⟨importPath, hpath, path⟩
      · rw [filled?_eq_some_text_iff.2 ⟨rpath, hpath'⟩] at path
        exact ⟨path', hpath', path⟩
    · exact Option.some.inj (h.name.symm.trans (filled?_eq_some_text_iff.2 ⟨rname, hname⟩))
    · obtain hnone | hnull | ⟨ts, hts⟩ := files
      · exact .inl ⟨.inl hnone, h.files_eq_nil (by rw [hnone]; rfl)⟩
      · exact .inl ⟨.inr hnull, h.files_eq_nil (by rw [hnull]; rfl)⟩
      · refine .inr ⟨ts.map .text, hts, ?_⟩
        rw [Json.filter_isText_eq_self_iff.2 ⟨ts, rfl⟩]
        exact h.files_eq_items hts

/-- What comes of the question for an import path is validated: it is a package that is what it
should be after what is known of it, or a diagnostic on the question. -/
structure IsValidated (importPath : Text) (info : List (Text × Json))
    (x : Except Failure Package) : Prop where
  answered : IsAnswered (.resolution (some importPath)) x
  sound : ∀ k, x = .ok k → IsSound info k

theorem isValidated_ofInfo_iff : IsValidated importPath info (ofInfo importPath info) ↔
    IsIncomplete info ∨ IsWellTyped importPath info := by
  constructor
  · rintro ⟨answered, sound⟩
    rcases isAnswered_ofInfo_iff.1 answered with hincomplete | hkind
    · exact .inl hincomplete
    · obtain ⟨hincomplete, -⟩ | ⟨-, hwrong, -⟩ | ⟨-, -, k, h, hk⟩ := ofInfo_cases importPath info
      · exact .inl hincomplete
      · exact absurd hwrong hkind
      · exact .inr (hk.isSound_iff.1 (sound k h))
  · rintro (hincomplete | hkinds)
    · refine ⟨isAnswered_ofInfo_iff.2 (.inl hincomplete), fun k hk => ?_⟩
      exact absurd hincomplete (ofInfo_eq_ok_iff.1 hk).not_isIncomplete
    · refine ⟨isAnswered_ofInfo_iff.2 (.inr hkinds.not_isWrongKind), fun k hk => ?_⟩
      exact (ofInfo_eq_ok_iff.1 hk).isSound_iff.2 hkinds

end Package

namespace Toolchain

open Package

variable {t : Toolchain} {importPath : Text} {info : List (Text × Json)}

theorem resolve_of_packageInfo (h : t.packageInfo importPath = .ok info) :
    t.toClient.toCatalog.resolve importPath = ofInfo importPath info := by
  change t.packageInfo importPath >>= ofInfo importPath = _
  rw [h]
  rfl

/-- **What a toolchain says of a package is validated as far as it is well typed**: an object comes to
a package that is what it should be, or to the diagnostic on the question, exactly if it does not
give directory and name, or all that it gives is of the right kind. Otherwise the directory is no
text, or nothing can be taken out of what should be the files, and this is a fault; or a package is
made of what is there, whatever it is. In particular a question that is answered by the toolchain
stays without an answer for that fault only. -/
theorem resolve_isValidated_iff (t : Toolchain) (importPath : Text) :
    (IsAnswered (.resolution (some importPath)) (t.toClient.toCatalog.resolve importPath) ↔
      IsAnswered (.resolution (some importPath)) (t.packageInfo importPath) ∧
        ∀ info, t.packageInfo importPath = .ok info → IsIncomplete info ∨ ¬ IsWrongKind info) ∧
    ∀ info, t.packageInfo importPath = .ok info →
      (IsValidated importPath info (t.toClient.toCatalog.resolve importPath) ↔
        IsIncomplete info ∨ IsWellTyped importPath info) ∧
      ((∃ words, t.toClient.toCatalog.resolve importPath = .error (.fault (.wrongKind words))) ↔
        ¬ IsIncomplete info ∧ IsWrongKind info) ∧
      ∀ k, t.toClient.toCatalog.resolve importPath = .ok k ↔ IsOf importPath info k := by
  constructor
  · change IsAnswered _ (t.packageInfo importPath >>= ofInfo importPath) ↔ _
    simp only [IsAnswered.bind_iff, isAnswered_ofInfo_iff]
  · intro info h
    rw [resolve_of_packageInfo h]
    exact ⟨isValidated_ofInfo_iff, exists_wrongKind_iff, fun k => ofInfo_eq_ok_iff⟩

/-- A toolchain that prints an object, whatever it is asked. -/
def telling (members : List (Text × Json)) : Toolchain :=
  ⟨"go", fun _ _ => .ended (Json.written (.object members)).octets [] none⟩

theorem packageInfo_telling {members : List (Text × Json)} {n : Nat}
    (plain : Json.IsPlain n (.object members)) (enough : n ≤ Json.nestingLimit) :
    (telling members).packageInfo "fmt" = .ok members := by
  have document : Json.IsDocumentOf (Json.written (.object members)) (.object members) :=
    Json.isDocumentOf_writtenWith _ plain
  have scalar : (Json.written (.object members)).IsScalar := plain.isScalar_of_isDocumentOf document
  refine packageInfo_eq_ok_iff.2 ⟨⟨?_, ?_⟩, Json.written (.object members), ?_, ?_⟩
  · intro word hword
    have passable : ∀ word ∈ [Text.ofString "go", Text.ofString "list", Text.ofString "-json",
        Text.ofString "fmt"], FileSystem.textFault? word = none := by decide
    exact FileSystem.textFault?_eq_none_iff.1 (passable word hword)
  · rintro _ _ _ ⟨⟩
    exact ⟨⟨_, scalar, rfl⟩, ⟨[], nofun, rfl⟩⟩
  · exact ⟨_, [], [], rfl, Text.decode_eq_ok_iff.2 ⟨scalar, rfl⟩, rfl⟩
  · exact Json.read_of_isDocumentOf plain enough document.unifyNewlines

/-- An object of a package with one file, that does not repeat its import path. -/
def described : List (Text × Json) :=
  [("Dir", .text "/src/fmt"), ("Name", .text "fmt"), ("GoFiles", .list [.text "doc.go"])]

theorem resolve_isValidated_described :
    (telling described).packageInfo "fmt" = .ok described ∧ IsWellTyped "fmt" described ∧
    IsValidated "fmt" described ((telling described).toClient.toCatalog.resolve "fmt") ∧
    (telling described).toClient.toCatalog.resolve "fmt" =
      .ok ⟨.text "fmt", Path.parse "/src/fmt", [.text "doc.go"], .text "fmt"⟩ := by
  have plain : Json.IsPlain 2 (.object described) := by
    refine .object (by decide) ?_ ?_ <;> simp only [described, List.forall_mem_cons]
    · exact ⟨Text.isScalar_ofString _, Text.isScalar_ofString _, Text.isScalar_ofString _, nofun⟩
    · exact ⟨.text (Text.isScalar_ofString _), .text (Text.isScalar_ofString _),
        .list (List.forall_mem_singleton.2 (.text (Text.isScalar_ofString _))), nofun⟩
  have known := packageInfo_telling plain (by decide)
  have kinds : IsWellTyped "fmt" described := {
    directory := ⟨"/src/fmt", by decide, rfl⟩
    name := ⟨"fmt", by decide, rfl⟩
    importPath := .inl ⟨rfl, by decide⟩
    files := .inr (.inr ⟨["doc.go"], rfl⟩) }
  obtain ⟨-, questions⟩ := resolve_isValidated_iff (telling described) "fmt"
  obtain ⟨validated, -, resolved⟩ := questions described known
  exact ⟨known, kinds, validated.2 (.inr kinds),
    (resolved _).2 ⟨⟨"/src/fmt", rfl, rfl⟩, rfl, rfl, rfl⟩⟩

/-- Objects in which one member is of a wrong kind: the directory, the files, the name. -/
def listedDirectory : List (Text × Json) :=
  [("Dir", .list [.text "/src/fmt"]), ("Name", .text "fmt")]

def spelledFiles : List (Text × Json) :=
  [("Dir", .text "/src/fmt"), ("Name", .text "fmt"), ("GoFiles", .text "ab")]

def listedName : List (Text × Json) :=
  [("Dir", .text "/src/fmt"), ("Name", .list [.text "fmt"])]

/-- A directory that is a list is a fault. Files that are a text are its characters, and a name that
is a list stays one. -/
theorem not_isValidated_of_wrong_kind :
    (∃ words, (telling listedDirectory).toClient.toCatalog.resolve "fmt" =
      .error (.fault (.wrongKind words))) ∧
    (telling spelledFiles).toClient.toCatalog.resolve "fmt" =
      .ok ⟨.text "fmt", Path.parse "/src/fmt", [.text "a", .text "b"], .text "fmt"⟩ ∧
    (telling listedName).toClient.toCatalog.resolve "fmt" =
      .ok ⟨.text "fmt", Path.parse "/src/fmt", [], .list [.text "fmt"]⟩ ∧
    ¬ IsValidated "fmt" listedDirectory
      ((telling listedDirectory).toClient.toCatalog.resolve "fmt") ∧
    ¬ IsValidated "fmt" spelledFiles ((telling spelledFiles).toClient.toCatalog.resolve "fmt") ∧
    ¬ IsValidated "fmt" listedName ((telling listedName).toClient.toCatalog.resolve "fmt") := by
  have scalar : ∀ s : String, (Text.ofString s).IsScalar := Text.isScalar_ofString
  have hdirectory : (telling listedDirectory).packageInfo "fmt" = .ok listedDirectory := by
    refine packageInfo_telling (n := 2) (.object (by decide) ?_ ?_) (by decide) <;>
      simp only [listedDirectory, List.forall_mem_cons]
    · exact ⟨scalar _, scalar _, nofun⟩
    · exact ⟨.list (List.forall_mem_singleton.2 (.text (scalar _))), .text (scalar _), nofun⟩
  have hfiles : (telling spelledFiles).packageInfo "fmt" = .ok spelledFiles := by
    refine packageInfo_telling (n := 1) (.object (by decide) ?_ ?_) (by decide) <;>
      simp only [spelledFiles, List.forall_mem_cons]
    · exact ⟨scalar _, scalar _, scalar _, nofun⟩
    · exact ⟨.text (scalar _), .text (scalar _), .text (scalar _), nofun⟩
  have hname : (telling listedName).packageInfo "fmt" = .ok listedName := by
    refine packageInfo_telling (n := 2) (.object (by decide) ?_ ?_) (by decide) <;>
      simp only [listedName, List.forall_mem_cons]
    · exact ⟨scalar _, scalar _, nofun⟩
    · exact ⟨.text (scalar _), .list (List.forall_mem_singleton.2 (.text (scalar _))), nofun⟩
  rw [resolve_of_packageInfo hdirectory, resolve_of_packageInfo hfiles,
    resolve_of_packageInfo hname]
  refine ⟨⟨_, rfl⟩, rfl, rfl, ?_, ?_, ?_⟩
  · exact fun validated => IsAnswered.not_fault _ validated.answered
  · intro validated
    rcases (validated.sound _ rfl).files with ⟨hnone | hnull, -⟩ | ⟨items, hitems, -⟩
    · cases hnone
    · cases hnull
    · cases hitems
  · intro validated
    obtain ⟨name, -, hlist⟩ := (validated.sound _ rfl).name
    cases hlist

end Toolchain

end GoLexicon
