import GoLexicon.FileSystem.Reading
import GoLexicon.Proofs.Except
import GoLexicon.Proofs.FileSystem.Trees
/-!
# A table of files for a file system

A table of files knows nothing of directories, and of a path it knows no more than whether it has an
entry. A file system that holds the same files (`FileSystem.Holds`) has several reasons to refuse a
path: nothing stands there, or a directory, or a file stands on the way, or a name is too long. What
is read through either is the same, though, and what is refused is refused in the same words
(`FileSystem.Holds.read_alike`); only what lies behind the refusal differs (`Failure.IsLike`).

The path must be one that can be handed to the system. Otherwise the file system fails with a fault,
and the table does not notice (`FileSystem.read_of_textFault?`).
-/

namespace GoLexicon

/-! ## Failures that differ in what lies behind them -/

/-- What a failure is about, where it is a diagnostic. -/
def Failure.subject? : Failure → Option Subject
  | diagnostic d => some d.subject
  | fault _ => none

/-- Two failures of one kind, in the same words, and about the same. What lies behind them may
differ. -/
structure Failure.IsLike (f f' : Failure) : Prop where
  name : f.name = f'.name
  message : f.message = f'.message
  subject : f.subject? = f'.subject?

instance : Std.Refl Failure.IsLike := ⟨fun _ => ⟨rfl, rfl, rfl⟩⟩

/-- A file is read in two ways: its content is the same, or both refuse it, each for a reason of its
own. -/
def ReadAlike {α : Type} (p : Path) (x y : Except Failure α) : Prop :=
  (∃ a, x = .ok a ∧ y = .ok a) ∨ ∃ o o', x = .error (unreadable p o) ∧ y = .error (unreadable p o')

namespace ReadAlike

variable {α β : Type} {p : Path} {x y : Except Failure α}

theorem agree (h : ReadAlike p x y) : Except.AgreeUpTo Failure.IsLike x y := by
  obtain ⟨a, rfl, rfl⟩ | ⟨o, o', rfl, rfl⟩ := h
  · exact .ok a
  · exact .error ⟨rfl, rfl, rfl⟩

theorem bind_ok (h : ReadAlike p x y) (g : α → β) :
    ReadAlike p (x >>= fun a => .ok (g a)) (y >>= fun a => .ok (g a)) := by
  obtain ⟨a, rfl, rfl⟩ | ⟨o, o', rfl, rfl⟩ := h
  · exact .inl ⟨g a, rfl, rfl⟩
  · exact .inr ⟨o, o', rfl, rfl⟩

end ReadAlike

/-! ## Requests -/

/-- A path within the current directory, in whose text nothing keeps it from the system. Lone
surrogates that stand for octets are left out with the other ones: where they occur, two texts can
stand for the same octets, and the system takes them for one path. -/
structure Path.IsRequest (p : Path) : Prop where
  here : p.anchor = .here
  noUp : up ∉ p.names
  scalar : p.toText.IsScalar
  noNull : (0 : CodePoint) ∉ p.toText

theorem Path.isRequest_iff {p : Path} : p.IsRequest ↔ p.anchor = .here ∧ up ∉ p.names ∧
    p.toText.all (fun c => !c.isSurrogate && c.val != 0) = true := by
  rw [List.all_eq_true]
  constructor
  · intro h
    refine ⟨h.here, h.noUp, fun c hc => ?_⟩
    have nonzero : c.val ≠ 0 := fun hzero => h.noNull ((Fin.ext hzero : c = 0) ▸ hc)
    rw [h.scalar c hc, bne_iff_ne.2 nonzero]
    rfl
  · rintro ⟨here, noUp, h⟩
    refine ⟨here, noUp, fun c hc => ?_, fun hnull => ?_⟩
    · simpa using (Bool.and_eq_true_iff.1 (h c hc)).1
    · simpa using h 0 hnull

instance (p : Path) : Decidable p.IsRequest := decidable_of_iff _ Path.isRequest_iff.symm

theorem Path.eq_of_names {p q : Path} (anchor : p.anchor = q.anchor) (names : p.names = q.names) :
    p = q := by
  cases p
  cases q
  cases anchor
  cases names
  rfl

theorem Path.IsRequest.textFault? {p : Path} (h : p.IsRequest) :
    FileSystem.textFault? p.toText = none := by
  refine FileSystem.textFault?_eq_none_iff.2 fun c hc => ⟨fun hzero => h.noNull ?_, ?_⟩
  · have null : c = 0 := Fin.ext hzero
    exact null ▸ hc
  · rw [h.scalar c hc]
    exact nofun

/-- A request to a reader: for the octets of a file, or for its text. -/
inductive FileRequest where
  | octets (p : Path)
  | text (p : Path)

namespace FileRequest

/-- The path that is asked for. -/
def path : FileRequest → Path
  | octets p => p
  | text p => p

/-- What a reader answers. -/
def answer (read : FileReader) : FileRequest → Except Failure (Bytes ⊕ Text)
  | octets p => do return .inl (← read p)
  | text p => do return .inr (← read.text p)

/-- Readers that read the file of a request alike answer it alike. -/
theorem answer_alike {read read' : FileReader} (q : FileRequest)
    (h : ReadAlike q.path (read q.path) (read' q.path)) :
    ReadAlike q.path (q.answer read) (q.answer read') := by
  cases q with
  | octets p => exact h.bind_ok Sum.inl
  | text p => exact (h.bind_ok Text.decodeReplacing).bind_ok Sum.inr

end FileRequest

/-! ## The files of a file system -/

/-- Files that a file system can hold: each has a path within the current directory that is short
enough, as are its names, and none of them stands above another one. -/
structure IsStorable (files : List (Path × Bytes)) : Prop where
  request : ∀ x ∈ files, x.1.IsRequest
  inside : ∀ x ∈ files, x.1.names ≠ []
  names : ∀ x ∈ files, ∀ name ∈ x.1.names, FileSystem.octetCount name ≤ FileSystem.nameLimit
  path : ∀ x ∈ files, FileSystem.octetCount x.1.toText < FileSystem.pathLimit
  apart : ∀ x ∈ files, ∀ y ∈ files, x.1.names <+: y.1.names → x.1 = y.1

namespace FileSystem

variable {fs : FileSystem} {files : List (Path × Bytes)} {p : Path}

/-- A file system is a tree, and the files in its current directory and below are exactly those of a
list. Of two for one path the later one counts. -/
structure Holds (fs : FileSystem) (files : List (Path × Bytes)) : Prop where
  tree : fs.IsTree
  file_iff : ∀ (p : Path) (content : Bytes), p.anchor = .here → Path.up ∉ p.names →
    (fs.entry? (fs.here ++ p.names) = some (.file content) ↔
      files.reverse.lookup p = some content)

theorem read_of_textFault? {fault : Fault} (h : textFault? p.toText = some fault) :
    fs.read p = .error (.fault fault) := by
  have refused : fs.locate p = .error fault := by simp only [locate, h]
  rw [read, refused]
  cases fault with
  | system e => exact absurd h textFault?_ne_system
  | _ => rfl

theorem read_eq_ok_iff {content : Bytes} :
    fs.read p = .ok content ↔ ∃ location, fs.locate p = .ok (location, some (.file content)) := by
  unfold read
  split
  · next h => simp [h]
  · next h => simp [h]
  · next h => simp [h]
  · next h => simp [h]
  · next h => simp [h]

/-- What is not read is refused, where the system can be asked at all. -/
theorem exists_unreadable (passable : textFault? p.toText = none)
    (h : ∀ content, fs.read p ≠ .ok content) : ∃ o, fs.read p = .error (unreadable p o) := by
  unfold read at h ⊢
  split
  · next hlocate =>
    simp only [hlocate] at h
    exact absurd rfl (h _)
  · exact ⟨_, rfl⟩
  · exact ⟨_, rfl⟩
  · exact ⟨_, rfl⟩
  · next fault hsystem hlocate =>
    simp only [locate, passable] at hlocate
    split at hlocate
    · exact absurd (Except.error.inj hlocate).symm (hsystem _)
    · split at hlocate
      · cases hlocate
      · exact absurd (Except.error.inj hlocate).symm (hsystem _)

theorem start_of_isRequest (request : p.IsRequest) : fs.start p = fs.here := by
  simp only [start, request.here]

/-- What a tree holds can be read, by a path that is short enough. -/
theorem IsTree.read_eq_ok (tree : fs.IsTree) (request : p.IsRequest)
    (short : octetCount p.toText < pathLimit) {content : Bytes}
    (h : fs.entry? (fs.here ++ p.names) = some (.file content)) : fs.read p = .ok content := by
  refine read_eq_ok_iff.2 ⟨fs.here ++ p.names, locate_eq_ok_iff.2 ⟨request.textFault?, short, ?_⟩⟩
  rw [start_of_isRequest request]
  exact tree.walk_eq_ok h

/-- What is read stands where the names of the path lead. -/
theorem entry?_of_read_eq_ok (request : p.IsRequest) {content : Bytes}
    (h : fs.read p = .ok content) : fs.entry? (fs.here ++ p.names) = some (.file content) := by
  obtain ⟨location, hlocate⟩ := read_eq_ok_iff.1 h
  obtain ⟨-, -, hwalk⟩ := locate_eq_ok_iff.1 hlocate
  rw [start_of_isRequest request] at hwalk
  obtain ⟨rfl, hentry⟩ := FileSystem.walk_eq_ok request.noUp hwalk
  exact hentry.symm

/-- A file system and a table of the files that it holds read alike. -/
theorem Holds.read_alike (holds : fs.Holds files) (storable : IsStorable files)
    (request : p.IsRequest) :
    ReadAlike p (fs.read p) (FileTable.read ⟨files, none⟩ p) := by
  have entry := fun content => holds.file_iff p content request.here request.noUp
  cases hlookup : files.reverse.lookup p with
  | some content =>
    obtain ⟨before, after, hfiles, -⟩ := List.lookup_eq_some_iff.1 hlookup
    have stored : (p, content) ∈ files := List.mem_reverse.1 (by simp [hfiles])
    refine .inl ⟨content, ?_, by rw [FileTable.read, hlookup]⟩
    exact holds.tree.read_eq_ok request (storable.path _ stored) ((entry content).2 hlookup)
  | none =>
    have unread : ∀ content, fs.read p ≠ .ok content := fun content h =>
      nomatch hlookup.symm.trans ((entry content).1 (entry?_of_read_eq_ok request h))
    obtain ⟨o, ho⟩ := exists_unreadable request.textFault? unread
    exact .inr ⟨o, _, ho, by rw [FileTable.read, hlookup]⟩

/-! ## Holding files -/

theorem lookup_names {l : List (Path × Bytes)} (h : ∀ x ∈ l, x.1.anchor = .here)
    (hp : p.anchor = .here) :
    (l.map fun x => (x.1.names, x.2)).lookup p.names = l.lookup p := by
  induction l with
  | nil => rfl
  | cons x l ih =>
    obtain ⟨hx, hl⟩ := List.forall_mem_cons.1 h
    have same : p.names = x.1.names ↔ p = x.1 :=
      ⟨Path.eq_of_names (hp.trans hx.symm), fun heq => congrArg Path.names heq⟩
    rw [List.map_cons, List.lookup_cons_ite, List.lookup_cons_ite, ih hl]
    exact if_congr same rfl rfl

/-- The file system that is built from files that can be stored holds them. -/
theorem holds_ofFiles {here : Location} (hhere : ∀ name ∈ here, CanStand name)
    (storable : IsStorable files) :
    (ofFiles here (files.map fun x => (x.1.names, x.2))).Holds files := by
  have apart : AreApart (files.map fun x => (x.1.names, x.2)) := by
    refine ⟨?_, ?_, ?_⟩
    · exact List.forall_mem_map.2 storable.inside
    · refine List.forall_mem_map.2 fun x hx name hname => ⟨?_, storable.names x hx name hname⟩
      rintro rfl
      exact (storable.request x hx).noUp hname
    · refine List.forall_mem_map.2 fun x hx => List.forall_mem_map.2 fun y hy h => ?_
      exact congrArg Path.names (storable.apart x hx y hy h)
  have built := isBuilt_ofFiles hhere apart
  refine ⟨built.tree, fun p content hp _ => ?_⟩
  have anchors : ∀ x ∈ files.reverse, x.1.anchor = .here := fun x hx =>
    (storable.request x (List.mem_reverse.1 hx)).here
  rw [built.file_iff, built.here_eq, ← lookup_names anchors hp, ← List.map_reverse]
  constructor
  · rintro ⟨names, hnames, hlookup⟩
    rwa [List.append_cancel_left hnames]
  · exact fun h => ⟨p.names, rfl, h⟩

end FileSystem

end GoLexicon
