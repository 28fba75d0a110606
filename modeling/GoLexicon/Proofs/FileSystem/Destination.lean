import GoLexicon.Proofs.FileSystem.Atomicity
import Mathlib.Data.List.Induction
import Mathlib.Data.List.Nodup
import Mathlib.Data.List.Perm.Subperm
/-!
# What the check of a destination foresees

The check looks at the destination and at the directory above it; the replacement makes a file with
a longer name first. What can be replaced is accepted by the check. What is accepted can be replaced
if the name and the path of the temporary file are short enough (`Replacement.HasRoom`), and the
text of the destination can be handed to the system. Where a length is refused already when the
check looks, the refusal is a fault and no diagnostic. `Replacement.check_foresees_replacement` says
that this is all in which the two differ.

A walk to a directory comes through directories only (`FileSystem.IsReached`). So the way that the
temporary file takes, from the root, is open if the one of the destination is, wherever that begins.
-/

namespace GoLexicon

namespace Path

variable {p : Path}

theorem parent_names_append (h : p.names ≠ []) : p.parent.names ++ [p.lastName] = p.names := by
  have last : p.lastName = p.names.getLast h := by
    rw [lastName, List.getLastD_eq_getLast?, List.getLast?_eq_getLast_of_ne_nil h, Option.getD_some]
  rw [last]
  exact List.dropLast_concat_getLast h

theorem parent_eq_self (h : p.names = []) : p.parent = p := by
  obtain ⟨anchor, names, isName⟩ := p
  obtain rfl : names = [] := h
  rfl

/-- The text of a path is its anchor and its names, unless it is the dot. -/
theorem toText_eq (h : p.anchor ≠ .here ∨ p.names ≠ []) :
    p.toText = p.anchor.toText ++ Text.joined "/" p.names := by
  unfold toText
  split
  · next hanchor hnames =>
    rcases h with h | h
    · exact absurd hanchor h
    · exact absurd hnames h
  · rfl

end Path

namespace FileSystem

variable {fs : FileSystem} {p : Path} {location found : Location} {names : List Text} {name : Text}
  {e : Option Entry}

/-! ## Octets -/

theorem octetCount_append (t u : Text) : octetCount (t ++ u) = octetCount t + octetCount u := by
  have counted : ∀ n, u.foldl (fun n c => n + if standsForOctet c then 1 else c.octets.length) n =
      n + octetCount u := by
    unfold octetCount
    induction u with
    | nil => exact fun n => rfl
    | cons c u ih =>
      intro n
      rw [List.foldl_cons, List.foldl_cons, ih, ih (0 + _)]
      omega
  rw [octetCount, List.foldl_append, counted]
  rfl

/-- Of what is no more than ASCII each code point has one octet. -/
theorem octetCount_of_ascii {t : Text} (h : ∀ c ∈ t, c.val < 0x80) : octetCount t = t.length := by
  induction t with
  | nil => rfl
  | cons c t ih =>
    obtain ⟨hc, ht⟩ := List.forall_mem_cons.1 h
    have single : octetCount [c] = 1 := by
      simp [octetCount, CodePoint.octets_one hc]
    rw [← List.singleton_append, octetCount_append, single, ih ht, List.length_append,
      List.length_singleton]

/-- One more name adds its octets, and one for the slash in front of it. -/
theorem octetCount_joined_concat (names : List Text) (name : Text) :
    octetCount (Text.joined "/" (names ++ [name])) =
      octetCount (Text.joined "/" names) + (if names = [] then 0 else 1) + octetCount name := by
  have slash : octetCount [CodePoint.ofChar '/'] = 1 := by decide
  have grown : ∀ first rest : Text, octetCount (first ++ CodePoint.ofChar '/' :: rest) =
      octetCount first + 1 + octetCount rest := by
    intro first rest
    rw [octetCount_append, ← List.singleton_append, octetCount_append, slash, Nat.add_assoc]
  rw [Path.text_slash]
  induction names with
  | nil => simp [Text.joined, octetCount]
  | cons first names ih =>
    cases names with
    | nil =>
      rw [List.cons_append, List.nil_append, Text.joined_cons_cons, grown]
      simp [Text.joined]
    | cons second names =>
      simp only [List.cons_append, Text.joined_cons_cons, grown] at ih ⊢
      simp only [ih, reduceCtorEq, if_false]
      omega

theorem octetCount_toText_parent (h : octetCount p.toText < pathLimit) :
    octetCount p.parent.toText < pathLimit := by
  by_cases hnames : p.names = []
  · rwa [Path.parent_eq_self hnames]
  · by_cases dot : p.anchor = .here ∧ p.parent.names = []
    · have shown : p.parent.toText = Text.ofString "." := by
        have hanchor : p.parent.anchor = .here := dot.1
        simp only [Path.toText, hanchor, dot.2]
      rw [shown]
      decide
    · have whole : p.parent.anchor ≠ .here ∨ p.parent.names ≠ [] := by
        rw [← not_and_or]
        exact dot
      rw [Path.toText_eq (.inr hnames), octetCount_append, ← Path.parent_names_append hnames,
        octetCount_joined_concat] at h
      rw [Path.toText_eq whole, octetCount_append]
      change octetCount p.anchor.toText + _ < _
      omega

theorem textFault?_toText_parent (h : textFault? p.toText = none) :
    textFault? p.parent.toText = none := by
  rw [Path.textFault?_toText_iff] at h ⊢
  exact fun name hname => h name (List.dropLast_subset _ hname)

/-! ## Directories that can be reached -/

/-- One name can be gone from a directory if it is no name that is too long. -/
theorem walk_singleton_eq_ok_iff : fs.walk location [name] = .ok (found, e) ↔
    fs.entry? location = some .directory ∧
      (name = Path.up ∧ found = location.dropLast ∨
        name ≠ Path.up ∧ octetCount name ≤ nameLimit ∧ found = location ++ [name]) ∧
      e = fs.entry? found := by
  rw [walk]
  split
  · next hentry => simp [hentry]
  · next hentry => simp [hentry]
  · next hentry =>
    have ended : ∀ place : Location, fs.walk place [] = .ok (found, e) ↔
        found = place ∧ e = fs.entry? found := by
      intro place
      rw [walk, Except.ok.injEq, Prod.mk.injEq]
      constructor
      · rintro ⟨rfl, rfl⟩
        exact ⟨rfl, rfl⟩
      · rintro ⟨rfl, rfl⟩
        exact ⟨rfl, rfl⟩
    by_cases hup : name = Path.up
    · simp [hentry, hup, ended]
    · by_cases hlong : nameLimit < octetCount name
      · simp [hentry, hup, hlong, Nat.not_le.2 hlong]
      · simp [hentry, hup, hlong, Nat.le_of_not_lt hlong, ended]

/-- One more name can be gone if the names before it lead to a directory. -/
theorem walk_concat_eq_ok_iff : fs.walk location (names ++ [name]) = .ok (found, e) ↔
    ∃ place, fs.walk location names = .ok (place, some .directory) ∧
      (name = Path.up ∧ found = place.dropLast ∨
        name ≠ Path.up ∧ octetCount name ≤ nameLimit ∧ found = place ++ [name]) ∧
      e = fs.entry? found := by
  induction names generalizing location with
  | nil =>
    rw [List.nil_append, walk_singleton_eq_ok_iff]
    constructor
    · rintro ⟨hentry, hend⟩
      exact ⟨location, by rw [walk, hentry], hend⟩
    · rintro ⟨place, hplace, hend⟩
      obtain ⟨rfl, hentry⟩ := Prod.mk.inj (Except.ok.inj hplace)
      exact ⟨hentry, hend⟩
  | cons next names ih =>
    rw [List.cons_append, walk, walk]
    split
    · simp
    · simp
    · split
      · exact ih
      · split
        · simp
        · exact ih

/-- A directory stands at a location, and at each one on the way to it from the root. -/
def IsReached (fs : FileSystem) (location : Location) : Prop :=
  fs.walk [] location = .ok (location, some .directory)

namespace IsReached

theorem entry (h : fs.IsReached location) : fs.entry? location = some .directory :=
  (walk_end h).2.symm

theorem up_not_mem (h : fs.IsReached location) : Path.up ∉ location := by
  have settled : location = Path.settle location := (walk_end h).1
  rw [settled]
  exact Path.up_not_mem_settle location

theorem root (fs : FileSystem) : fs.IsReached [] := rfl

theorem dropLast (h : fs.IsReached location) : fs.IsReached location.dropLast := by
  rcases List.eq_nil_or_concat location with rfl | ⟨before, name, rfl⟩
  · exact root fs
  · rw [List.concat_eq_append] at h ⊢
    obtain ⟨place, hplace, -, -⟩ := walk_concat_eq_ok_iff.1 h
    have noUp : Path.up ∉ before := fun hup => h.up_not_mem (List.mem_append_left _ hup)
    have here : place = before := (walk_end hplace).1.trans (Path.settle_eq_self noUp)
    rw [List.dropLast_concat, IsReached, hplace, here]

/-- From a directory that can be reached, a walk comes to such directories only. -/
theorem of_walk (h : fs.IsReached location)
    (hwalk : fs.walk location names = .ok (found, some .directory)) : fs.IsReached found := by
  induction names using List.reverseRecOn generalizing found with
  | nil =>
    obtain ⟨rfl, -⟩ := Prod.mk.inj (Except.ok.inj hwalk)
    exact h
  | append_singleton names name ih =>
    obtain ⟨place, hplace, hend, hentry⟩ := walk_concat_eq_ok_iff.1 hwalk
    have reached : fs.IsReached place := ih hplace
    rcases hend with ⟨-, rfl⟩ | ⟨hup, hshort, rfl⟩
    · exact reached.dropLast
    · exact walk_concat_eq_ok_iff.2 ⟨place, reached, .inr ⟨hup, hshort, rfl⟩, hentry⟩

theorem start (here : fs.IsReached fs.here) (p : Path) : fs.IsReached (fs.start p) := by
  unfold FileSystem.start
  split
  · exact here
  · exact root fs

end IsReached

/-- The directory above a destination can be reached if the path of that directory leads to one. -/
theorem isReached_above (here : fs.IsReached fs.here)
    (h : fs.locate p.parent = .ok (found, some .directory)) : fs.IsReached (fs.above p) := by
  obtain ⟨-, -, hwalk⟩ := locate_eq_ok_iff.1 h
  have hfound : found = fs.above p := (walk_end hwalk).1
  rw [← hfound]
  exact (here.start p).of_walk hwalk

/-- The directory above a destination that leads somewhere is one. -/
theorem exists_locate_parent (hnames : p.names ≠ []) (h : fs.locate p = .ok (found, e)) :
    ∃ place, fs.locate p.parent = .ok (place, some .directory) := by
  obtain ⟨passable, hshort, hwalk⟩ := locate_eq_ok_iff.1 h
  rw [← Path.parent_names_append hnames] at hwalk
  obtain ⟨place, hplace, -, -⟩ := walk_concat_eq_ok_iff.1 hwalk
  exact ⟨place, locate_eq_ok_iff.2
    ⟨textFault?_toText_parent passable, octetCount_toText_parent hshort, hplace⟩⟩

/-! ## What the check sees -/

theorem isDirectory?_eq_ok_true_iff :
    fs.isDirectory? p = .ok true ↔ ∃ found, fs.locate p = .ok (found, some .directory) := by
  rw [← look_eq_some_iff, isDirectory?]
  cases fs.look p with
  | error fault => exact ⟨nofun, nofun⟩
  | ok e => simp [bind, Except.bind, pure, Except.pure]

theorem isDirectory?_eq_error_iff {fault : Fault} : fs.isDirectory? p = .error fault ↔
    fs.IsOverlong p ∧ fault = .system ⟨.nameTooLong, p.toText, none⟩ := by
  rw [← look_eq_error_iff, isDirectory?]
  cases fs.look p with
  | error fault => simp [bind, Except.bind]
  | ok e => exact ⟨nofun, nofun⟩

theorem isDirectory?_of_locate (h : fs.locate p = .ok (found, e)) :
    fs.isDirectory? p = .ok (decide (e = some .directory)) := by
  rw [isDirectory?, look, h]
  rfl

theorem not_isOverlong_of_isDirectory? {answer : Bool} (h : fs.isDirectory? p = .ok answer) :
    ¬ fs.IsOverlong p := fun hlong => by
  rw [isDirectory?_eq_error_iff.2 ⟨hlong, rfl⟩] at h
  cases h

theorem checkDestination_eq (fs : FileSystem) (writable : Bool) (p : Path) :
    fs.checkDestination writable p =
    match fs.isDirectory? p with
    | .error fault => .error (.fault fault)
    | .ok true => .error (invalidDestination p ("Output path is a directory: " ++ p.toText))
    | .ok false =>
      match fs.isDirectory? p.parent with
      | .error fault => .error (.fault fault)
      | .ok false =>
        .error (invalidDestination p ("Parent directory does not exist: " ++ p.parent.toText))
      | .ok true =>
        if writable then .ok ()
        else .error
          (invalidDestination p ("Parent directory is not writable: " ++ p.parent.toText)) := by
  simp only [checkDestination]
  rcases fs.isDirectory? p with fault | own
  · rfl
  · rcases fs.isDirectory? p.parent with fault | above
    · cases own <;> rfl
    · cases own <;> cases above <;> cases writable <;> rfl

theorem checkDestination_eq_ok_iff {writable : Bool} :
    fs.checkDestination writable p = .ok () ↔ fs.isDirectory? p = .ok false ∧
      fs.isDirectory? p.parent = .ok true ∧ writable = true := by
  rw [checkDestination_eq]
  split
  · next h => simp [h]
  · next h => simp [h]
  · next h =>
    split
    · next h' => simp [h']
    · next h' => simp [h']
    · next h' => simp [h, h']

/-- The check fails with the diagnostic on the destination, or with a fault where a length is
refused. -/
theorem checkDestination_eq_error {writable : Bool} {f : Failure}
    (h : fs.checkDestination writable p = .error f) :
    (∃ reason, f = invalidDestination p reason) ∨
      ∃ q, (q = p ∨ q = p.parent) ∧ fs.IsOverlong q ∧
        f = .fault (.system ⟨.nameTooLong, q.toText, none⟩) := by
  rw [checkDestination_eq] at h
  split at h
  · next hown =>
    obtain ⟨hlong, rfl⟩ := isDirectory?_eq_error_iff.1 hown
    exact .inr ⟨p, .inl rfl, hlong, (Except.error.inj h).symm⟩
  · exact .inl ⟨_, (Except.error.inj h).symm⟩
  · split at h
    · next habove =>
      obtain ⟨hlong, rfl⟩ := isDirectory?_eq_error_iff.1 habove
      exact .inr ⟨p.parent, .inr rfl, hlong, (Except.error.inj h).symm⟩
    · exact .inl ⟨_, (Except.error.inj h).symm⟩
    · split at h
      · cases h
      · exact .inl ⟨_, (Except.error.inj h).symm⟩

/-- Whatever is refused is refused with the diagnostic exactly if no length is refused on the way to
the destination, or to the directory above it. -/
theorem checkDestination_diagnoses_iff (writable : Bool) :
    (∀ f, fs.checkDestination writable p = .error f → ∃ reason, f = invalidDestination p reason) ↔
      ¬ fs.IsOverlong p ∧ ¬ fs.IsOverlong p.parent := by
  have undiagnosed : ∀ fault, ¬ ∃ reason, Failure.fault fault = invalidDestination p reason :=
    fun _ ⟨_, h⟩ => nomatch h
  constructor
  · intro diagnosed
    have own : ¬ fs.IsOverlong p := by
      intro hlong
      have hcheck := checkDestination_eq fs writable p
      rw [isDirectory?_eq_error_iff.2 ⟨hlong, rfl⟩] at hcheck
      exact undiagnosed _ (diagnosed _ hcheck)
    refine ⟨own, fun hlong => ?_⟩
    have notDirectory : fs.isDirectory? p = .ok false := by
      cases h : fs.isDirectory? p with
      | error fault => exact absurd (isDirectory?_eq_error_iff.1 h).1 own
      | ok answer =>
        cases answer with
        | false => rfl
        | true =>
          obtain ⟨found, hlocate⟩ := isDirectory?_eq_ok_true_iff.1 h
          by_cases hnames : p.names = []
          · rw [Path.parent_eq_self hnames] at hlong
            exact absurd hlong own
          · obtain ⟨place, habove⟩ := exists_locate_parent hnames hlocate
            cases habove.symm.trans hlong
    have hcheck := checkDestination_eq fs writable p
    rw [notDirectory, isDirectory?_eq_error_iff.2 ⟨hlong, rfl⟩] at hcheck
    exact undiagnosed _ (diagnosed _ hcheck)
  · rintro ⟨own, above⟩ f hf
    rcases checkDestination_eq_error hf with hdiagnostic | ⟨q, rfl | rfl, hlong, -⟩
    · exact hdiagnostic
    · exact absurd hlong own
    · exact absurd hlong above

end FileSystem

namespace Replacement

variable {fs : FileSystem} {p temporary : Path} {mark : Text} {t : Text} {writable : Bool}
  {disturbance : Disturbance}

/-! ## Names of temporary files -/

theorem octetCount_markOf (n : Nat) : FileSystem.octetCount (markOf n) = 8 := by
  have plain : (CodePoint.ofChar 'a' :: markCharacters).all (·.val < 0x80) = true := by
    decide
  rw [FileSystem.octetCount_of_ascii fun c hc => by
    simpa using List.all_eq_true.1 plain c (mem_markOf hc)]
  simp [markOf]

theorem octetCount_temporaryName (p : Path) (mark : Text) :
    FileSystem.octetCount (temporaryName p mark) =
      FileSystem.octetCount p.lastName + FileSystem.octetCount mark + 6 := by
  have dot : FileSystem.octetCount "." = 1 := by decide
  have ending : FileSystem.octetCount ".tmp" = 4 := by decide
  simp only [temporaryName, FileSystem.octetCount_append, dot, ending]
  omega

/-- The paths of temporary files have the same length if their marks have. -/
theorem octetCount_temporaryPath (proper : fs.here.IsProper) (n m : Nat) :
    FileSystem.octetCount (temporaryPath fs p (markOf n)).toText =
      FileSystem.octetCount (temporaryPath fs p (markOf m)).toText := by
  have anchored : ∀ k, (temporaryPath fs p (markOf k)).anchor =
      (Path.absolute fs.herePath p.parent).anchor := by
    intro k
    have single := isName_temporaryName (slash_not_mem_lastName p) (slash_not_mem_markOf k)
    exact (Path.join_of_here (Path.parse_of_isName single).1).1
  have counted : ∀ k, FileSystem.octetCount (temporaryPath fs p (markOf k)).toText =
      FileSystem.octetCount (Path.absolute fs.herePath p.parent).anchor.toText +
        (FileSystem.octetCount (Text.joined "/" (fs.above p)) +
          (if fs.above p = [] then 0 else 1) + (FileSystem.octetCount p.lastName + 8 + 6)) := by
    intro k
    obtain ⟨hroot, hnames⟩ := temporaryPath_eq (p := p) proper (slash_not_mem_markOf k)
    rw [Path.toText_eq (.inl hroot), anchored, FileSystem.octetCount_append, hnames,
      FileSystem.octetCount_joined_concat, octetCount_temporaryName, octetCount_markOf]
  rw [counted, counted]

/-- The name of a temporary file and its path are short enough for the system. All of them have the
same lengths, so the first one stands for the others. -/
structure HasRoom (fs : FileSystem) (p : Path) : Prop where
  name : FileSystem.octetCount (temporaryName p (markOf 0)) ≤ FileSystem.nameLimit
  path : FileSystem.octetCount (temporaryPath fs p (markOf 0)).toText < FileSystem.pathLimit

/-- Some name for a temporary file is not taken in the directory above the destination. -/
def HasFreeName (fs : FileSystem) (p : Path) : Prop :=
  ∃ mark ∈ marksFor fs, fs.entry? (fs.above p ++ [temporaryName p mark]) = none

/-- Numbers with the same digits in front of a place are the same up to this place. -/
theorem mod_pow_eq_of_digits {n m k : Nat}
    (h : ∀ i < k, n / Nat.pow 37 i % 37 = m / Nat.pow 37 i % 37) :
    n % Nat.pow 37 k = m % Nat.pow 37 k := by
  induction k with
  | zero =>
    change n % 1 = m % 1
    rw [Nat.mod_one, Nat.mod_one]
  | succ k ih =>
    change n % (Nat.pow 37 k * 37) = m % (Nat.pow 37 k * 37)
    rw [Nat.mod_mul, Nat.mod_mul, ih fun i hi => h i (Nat.lt_succ_of_lt hi),
      h k (Nat.lt_succ_self k)]

/-- Marks tell small numbers apart. -/
theorem markOf_inj {n m : Nat} (hn : n < Nat.pow 37 8) (hm : m < Nat.pow 37 8) (h : markOf n = markOf m) :
    n = m := by
  have distinct : ∀ i < 37, ∀ j < 37,
      markCharacters.getD i 'a' = markCharacters.getD j 'a' → i = j := by
    decide +kernel
  have digits : ∀ i < 8, n / Nat.pow 37 i % 37 = m / Nat.pow 37 i % 37 := by
    intro i hi
    have hchar := List.map_inj_left.1 h i (List.mem_range.2 hi)
    exact distinct _ (Nat.mod_lt _ (by decide)) _ (Nat.mod_lt _ (by decide)) hchar
  have same := mod_pow_eq_of_digits digits
  rwa [Nat.mod_eq_of_lt hn, Nat.mod_eq_of_lt hm] at same

/-- There are more marks to try than names that can be taken, as long as the marks differ. -/
theorem hasFreeName_of_length_lt (h : fs.entries.length < Nat.pow 37 8) (p : Path) :
    HasFreeName fs p := by
  by_contra hnone
  have taken : ∀ n < fs.entries.length + 1,
      fs.above p ++ [temporaryName p (markOf n)] ∈ fs.entries.map Prod.fst := by
    intro n hn
    by_contra hfree
    refine hnone ⟨markOf n, List.mem_map.2 ⟨n, List.mem_range.2 hn, rfl⟩, ?_⟩
    rw [FileSystem.entry?_of_ne_nil (by simp), List.lookup_eq_none_iff]
    intro e he
    have hne : fs.above p ++ [temporaryName p (markOf n)] ≠ e.1 := fun heq =>
      hfree (List.mem_map.2 ⟨e, he, heq.symm⟩)
    simpa using hne
  have nodup : ((List.range (fs.entries.length + 1)).map fun n =>
      fs.above p ++ [temporaryName p (markOf n)]).Nodup := by
    refine List.Nodup.map_on ?_ List.nodup_range
    intro n hn m hm heq
    rw [List.mem_range] at hn hm
    have hmarks : markOf n = markOf m := by simpa [temporaryName] using heq
    exact markOf_inj (by omega) (by omega) hmarks
  have bounded := (nodup.subperm fun location hlocation => by
    obtain ⟨n, hn, rfl⟩ := List.mem_map.1 hlocation
    exact taken n (List.mem_range.1 hn)).length_le
  simp only [List.length_map, List.length_range] at bounded
  omega

/-! ## Where the temporary file is created -/

/-- Where the directory above can be reached and there is room, the path of each temporary file
leads to its name in this directory. -/
theorem locate_temporaryPath_eq (proper : fs.here.IsProper) (reached : fs.IsReached (fs.above p))
    (passable : FileSystem.textFault? p.toText = none) (room : HasRoom fs p) (n : Nat) :
    fs.locate (temporaryPath fs p (markOf n)) = .ok (fs.above p ++ [temporaryName p (markOf n)],
      fs.entry? (fs.above p ++ [temporaryName p (markOf n)])) := by
  obtain ⟨hroot, hnames⟩ := temporaryPath_eq (p := p) proper (slash_not_mem_markOf n)
  have hstart : fs.start (temporaryPath fs p (markOf n)) = [] := FileSystem.start_of_ne_here hroot
  have short : FileSystem.octetCount (temporaryName p (markOf n)) ≤ FileSystem.nameLimit := by
    have first := room.name
    rw [octetCount_temporaryName, octetCount_markOf] at first ⊢
    exact first
  rw [FileSystem.locate_eq_ok_iff]
  refine ⟨?_, ?_, ?_⟩
  · exact textFault?_temporaryPath proper passable (slash_not_mem_markOf n) fun _ =>
      isPassable_of_mem_markOf
  · rw [octetCount_temporaryPath proper n 0]
    exact room.path
  · rw [hstart, hnames, FileSystem.walk_concat_eq_ok_iff]
    exact ⟨fs.above p, reached, .inr ⟨temporaryName_ne_up p _, short, rfl⟩, rfl⟩

theorem hasRoom_of_locate (proper : fs.here.IsProper) {n : Nat} {location : Location}
    {e : Option Entry} (h : fs.locate (temporaryPath fs p (markOf n)) = .ok (location, e)) :
    HasRoom fs p := by
  obtain ⟨hroot, hnames⟩ := temporaryPath_eq (p := p) proper (slash_not_mem_markOf n)
  obtain ⟨-, hpath, hwalk⟩ := FileSystem.locate_eq_ok_iff.1 h
  rw [hnames] at hwalk
  obtain ⟨place, -, hend, -⟩ := FileSystem.walk_concat_eq_ok_iff.1 hwalk
  constructor
  · rcases hend with ⟨hup, -⟩ | ⟨-, hname, -⟩
    · exact absurd hup (temporaryName_ne_up p _)
    · rw [octetCount_temporaryName, octetCount_markOf] at hname ⊢
      exact hname
  · rwa [octetCount_temporaryPath proper 0 n]

theorem exists_freshLocation {marks : List Text} (place : Text → Location)
    (located : ∀ mark ∈ marks,
      fs.locate (temporaryPath fs p mark) = .ok (place mark, fs.entry? (place mark)))
    (free : ∃ mark ∈ marks, fs.entry? (place mark) = none) :
    ∃ temporary location, freshLocation fs p marks = .ok (temporary, location) := by
  induction marks with
  | nil =>
    obtain ⟨mark, hmark, -⟩ := free
    cases hmark
  | cons mark marks ih =>
    obtain ⟨hfirst, hrest⟩ := List.forall_mem_cons.1 located
    simp only [freshLocation, hfirst]
    cases hentry : fs.entry? (place mark) with
    | none => exact ⟨_, _, rfl⟩
    | some entry =>
      obtain ⟨other, hother, hfree⟩ := free
      rcases List.mem_cons.1 hother with rfl | hother
      · rw [hentry] at hfree
        cases hfree
      · exact ih hrest ⟨other, hother, hfree⟩

/-- A temporary file can be created exactly if there is room and a name for it; that its directory
can be reached is presupposed. -/
theorem exists_freshLocation_iff (proper : fs.here.IsProper) (reached : fs.IsReached (fs.above p))
    (passable : FileSystem.textFault? p.toText = none) :
    (∃ temporary location, freshLocation fs p (marksFor fs) = .ok (temporary, location)) ↔
      HasRoom fs p ∧ HasFreeName fs p := by
  constructor
  · rintro ⟨temporary, location, h⟩
    obtain ⟨mark, hmark, rfl, hlocate⟩ := locate_of_freshLocation h
    obtain ⟨n, -, rfl⟩ := List.mem_map.1 hmark
    obtain ⟨rfl, hentry⟩ := locate_temporaryPath proper (slash_not_mem_markOf n) hlocate
    exact ⟨hasRoom_of_locate proper hlocate, markOf n, hmark, hentry.symm⟩
  · rintro ⟨room, free⟩
    refine exists_freshLocation (fun mark => fs.above p ++ [temporaryName p mark]) ?_ free
    intro mark hmark
    obtain ⟨n, -, rfl⟩ := List.mem_map.1 hmark
    exact locate_temporaryPath_eq proper reached passable room n

/-! ## Renaming it -/

theorem exists_renameTarget_iff : (∃ target, renameTarget fs temporary p = .ok target) ↔
    p.names ≠ [] ∧ p.lastName ≠ Path.up ∧
      ∃ target e, fs.locate p = .ok (target, e) ∧ e ≠ some .directory := by
  constructor
  · rintro ⟨target, h⟩
    obtain ⟨e, hlocate, hfile⟩ := locate_of_renameTarget h
    unfold renameTarget at h
    split at h
    · cases h
    · next hnames =>
      rw [not_or] at hnames
      exact ⟨hnames.1, hnames.2, target, e, hlocate, hfile⟩
  · rintro ⟨hnames, hup, target, e, hlocate, hfile⟩
    unfold renameTarget
    rw [if_neg (not_or.2 ⟨hnames, hup⟩), hlocate]
    rcases e with _ | _ | _
    · exact ⟨target, rfl⟩
    · exact ⟨target, rfl⟩
    · exact absurd rfl hfile

/-- A destination that can be renamed to is one that the check sees no fault in. -/
theorem isDirectory?_of_renameTarget
    (h : ∃ target, renameTarget fs temporary p = .ok target) :
    fs.isDirectory? p = .ok false ∧ fs.isDirectory? p.parent = .ok true ∧
      FileSystem.textFault? p.toText = none := by
  obtain ⟨hnames, -, target, e, hlocate, hfile⟩ := exists_renameTarget_iff.1 h
  obtain ⟨passable, -, -⟩ := FileSystem.locate_eq_ok_iff.1 hlocate
  obtain ⟨place, above⟩ := FileSystem.exists_locate_parent hnames hlocate
  refine ⟨?_, FileSystem.isDirectory?_eq_ok_true_iff.2 ⟨place, above⟩, passable⟩
  rw [FileSystem.isDirectory?_of_locate hlocate, decide_eq_false hfile]

/-- Where the check sees no fault, a file can be renamed to the destination; a last name that is
`..` or too long would not have got so far. -/
theorem renameTarget_of_isDirectory? (here : fs.IsReached fs.here)
    (passable : FileSystem.textFault? p.toText = none) (own : fs.isDirectory? p = .ok false)
    (above : fs.isDirectory? p.parent = .ok true) (temporary : Path) :
    ∃ target, renameTarget fs temporary p = .ok target := by
  obtain ⟨found, hparent⟩ := FileSystem.isDirectory?_eq_ok_true_iff.1 above
  have hwalk : fs.walk (fs.start p) p.parent.names = .ok (found, some .directory) :=
    (FileSystem.locate_eq_ok_iff.1 hparent).2.2
  have reached : fs.IsReached found := (here.start p).of_walk hwalk
  have hnames : p.names ≠ [] := by
    intro hnil
    rw [Path.parent_eq_self hnil, own] at above
    cases above
  -- no length is refused, as the check has seen what stands at the destination
  have notLong := FileSystem.not_isOverlong_of_isDirectory? own
  rw [FileSystem.isOverlong_iff, not_and, not_or] at notLong
  obtain ⟨hpath, hlast⟩ := notLong passable
  rw [← Path.parent_names_append hnames, FileSystem.walk_append hwalk] at hlast
  have located : ∀ place, fs.walk found [p.lastName] = .ok (place, fs.entry? place) →
      fs.locate p = .ok (place, fs.entry? place) := by
    intro place hplace
    rw [FileSystem.locate_eq_ok_iff, ← Path.parent_names_append hnames,
      FileSystem.walk_append hwalk]
    exact ⟨passable, Nat.lt_of_not_le hpath, hplace⟩
  have hup : p.lastName ≠ Path.up := by
    intro hup
    have hlocate := located found.dropLast (FileSystem.walk_singleton_eq_ok_iff.2
      ⟨reached.entry, .inl ⟨hup, rfl⟩, rfl⟩)
    rw [FileSystem.isDirectory?_of_locate hlocate, reached.dropLast.entry] at own
    cases own
  have short : FileSystem.octetCount p.lastName ≤ FileSystem.nameLimit := by
    by_contra hlong
    apply hlast
    rw [FileSystem.walk, reached.entry]
    simp only [if_neg hup, if_pos (Nat.lt_of_not_le hlong)]
  have hlocate := located (found ++ [p.lastName]) (FileSystem.walk_singleton_eq_ok_iff.2
    ⟨reached.entry, .inr ⟨hup, short, rfl⟩, rfl⟩)
  refine exists_renameTarget_iff.2 ⟨hnames, hup, _, _, hlocate, ?_⟩
  rw [FileSystem.isDirectory?_of_locate hlocate] at own
  simpa using own

/-! ## Check and replacement -/

/-- What befalls a replacement agrees with what the check is told of the directory above: a
temporary file can be created exactly if this lets files be created, and nothing befalls the later
operations. -/
structure Disturbance.AgreesWith (disturbance : Disturbance) (writable : Bool) : Prop where
  create : disturbance .create = none ↔ writable = true
  fill : disturbance .fill = none
  rename : disturbance .rename = none

theorem Disturbance.AgreesWith.eq_none_iff (h : disturbance.AgreesWith writable) :
    (∀ step, disturbance step = none) ↔ writable = true := by
  constructor
  · exact fun none => h.create.1 (none .create)
  · intro hwritable step
    cases step with
    | create => exact h.create.2 hwritable
    | fill => exact h.fill
    | rename => exact h.rename

/-- What befalls a replacement where files can be created in the directory above, or cannot. -/
def permitted (writable : Bool) : Disturbance
  | .create => if writable then none else some .denied
  | .fill => none
  | .rename => none

theorem agreesWith_permitted (writable : Bool) : (permitted writable).AgreesWith writable where
  create := by cases writable <;> simp [permitted]
  fill := rfl
  rename := rfl

/-- A replacement that nothing befalls goes well exactly if the check would accept its destination
in a directory that lets files be created, and none of what the check does not look at hinders it.
-/
theorem run_ok_iff_of_disturbance (proper : fs.here.IsProper) (here : fs.IsReached fs.here)
    (scalar : t.IsScalar) : (run disturbance fs p t).outcome = .ok () ↔
      (∀ step, disturbance step = none) ∧ fs.checkDestination true p = .ok () ∧
        FileSystem.textFault? p.toText = none ∧ HasRoom fs p ∧ HasFreeName fs p := by
  rw [run_ok_iff scalar, IsUnhindered, FileSystem.checkDestination_eq_ok_iff]
  have reached : fs.isDirectory? p.parent = .ok true → fs.IsReached (fs.above p) := by
    intro habove
    obtain ⟨found, hparent⟩ := FileSystem.isDirectory?_eq_ok_true_iff.1 habove
    exact FileSystem.isReached_above here hparent
  refine and_congr_right fun _ => ?_
  constructor
  · rintro ⟨temporary, location, target, hfresh, hrename⟩
    obtain ⟨own, above, passable⟩ := isDirectory?_of_renameTarget ⟨target, hrename⟩
    have created := (exists_freshLocation_iff proper (reached above) passable).1 ⟨_, _, hfresh⟩
    exact ⟨⟨own, above, rfl⟩, passable, created⟩
  · rintro ⟨⟨own, above, -⟩, passable, created⟩
    obtain ⟨temporary, location, hfresh⟩ :=
      (exists_freshLocation_iff proper (reached above) passable).2 created
    obtain ⟨target, hrename⟩ := renameTarget_of_isDirectory? here passable own above temporary
    exact ⟨temporary, location, target, hfresh, hrename⟩

/-- Where the two answers agree, a replacement goes well exactly if the check accepts its
destination and none of what the check does not look at hinders it. -/
theorem run_ok_iff_checkDestination (proper : fs.here.IsProper) (here : fs.IsReached fs.here)
    (scalar : t.IsScalar) (agrees : disturbance.AgreesWith writable) :
    (run disturbance fs p t).outcome = .ok () ↔
      fs.checkDestination writable p = .ok () ∧ FileSystem.textFault? p.toText = none ∧
        HasRoom fs p ∧ HasFreeName fs p := by
  rw [run_ok_iff_of_disturbance proper here scalar, agrees.eq_none_iff,
    FileSystem.checkDestination_eq_ok_iff, FileSystem.checkDestination_eq_ok_iff]
  tauto

/-- The check of a destination foresees how its replacement by a text goes: it accepts what can be
replaced and nothing else, and what it does not accept is refused with the diagnostic on the
destination. -/
structure IsForeseen (disturbance : Disturbance) (writable : Bool) (fs : FileSystem) (p : Path)
    (t : Text) : Prop where
  accepted : fs.checkDestination writable p = .ok () ↔ (run disturbance fs p t).outcome = .ok ()
  refused : ∀ f, fs.checkDestination writable p = .error f → ∃ reason, f = invalidDestination p reason

theorem isForeseen_iff_hasRoom (proper : fs.here.IsProper) (here : fs.IsReached fs.here)
    (scalar : t.IsScalar) (agrees : disturbance.AgreesWith writable) :
    IsForeseen disturbance writable fs p t ↔
      (fs.checkDestination writable p = .ok () → FileSystem.textFault? p.toText = none ∧
        HasRoom fs p ∧ HasFreeName fs p) ∧ ¬ fs.IsOverlong p ∧ ¬ fs.IsOverlong p.parent := by
  have outcome : (run disturbance fs p t).outcome = .ok () ↔ _ :=
    run_ok_iff_checkDestination proper here scalar agrees
  rw [← FileSystem.checkDestination_diagnoses_iff writable]
  constructor
  · rintro ⟨accepted, refused⟩
    exact ⟨fun hcheck => (outcome.1 (accepted.1 hcheck)).2, refused⟩
  · rintro ⟨unhindered, refused⟩
    exact ⟨⟨fun hcheck => outcome.2 ⟨hcheck, unhindered hcheck⟩, fun hrun => (outcome.1 hrun).1⟩,
      refused⟩

/-- Where nothing is too long, neither the destination nor the temporary file, and there are not
more files than marks, the check foresees how the replacement goes. The text of the destination must
be one that can be handed to the system. -/
theorem isForeseen_of_short (proper : fs.here.IsProper) (here : fs.IsReached fs.here)
    (scalar : t.IsScalar) (agrees : disturbance.AgreesWith writable)
    (passable : FileSystem.textFault? p.toText = none)
    (path : FileSystem.octetCount p.toText < FileSystem.pathLimit)
    (names : ∀ name ∈ p.names, FileSystem.octetCount name ≤ FileSystem.nameLimit)
    (room : HasRoom fs p) (few : fs.entries.length < Nat.pow 37 8) :
    IsForeseen disturbance writable fs p t := by
  rw [isForeseen_iff_hasRoom proper here scalar agrees]
  refine ⟨fun _ => ⟨passable, room, hasFreeName_of_length_lt few p⟩, ?_, ?_⟩
  · exact FileSystem.not_isOverlong path names
  · exact FileSystem.not_isOverlong (FileSystem.octetCount_toText_parent path) fun name hname =>
      names name (List.dropLast_subset _ hname)

/-- **The check of a destination foresees its replacement, but for what is too long**: where the
check is told whether files can be created above the destination, what can be replaced is accepted.
What is accepted can be replaced if its text can be handed to the system, the name and the path of
the temporary file are short enough, and one of the names for it is not taken, as is so where there
are not more files than marks. What is refused is refused with the diagnostic, unless the system
refuses a length when the check looks at the destination or at the directory above it. So the check
foresees how the replacement goes if none of this stands in the way, and, among file systems without
links and permissions, only then. -/
theorem check_foresees_replacement (proper : fs.here.IsProper) (here : fs.IsReached fs.here)
    (scalar : t.IsScalar) (agrees : disturbance.AgreesWith writable) (p : Path) :
    ((run disturbance fs p t).outcome = .ok () ↔
      fs.checkDestination writable p = .ok () ∧ FileSystem.textFault? p.toText = none ∧
        HasRoom fs p ∧ HasFreeName fs p) ∧
    (fs.entries.length < Nat.pow 37 8 → HasFreeName fs p) ∧
    (∀ f, fs.checkDestination writable p = .error f →
      (∃ reason, f = invalidDestination p reason) ∨ ∃ q, (q = p ∨ q = p.parent) ∧
        fs.IsOverlong q ∧ f = .fault (.system ⟨.nameTooLong, q.toText, none⟩)) ∧
    (IsForeseen disturbance writable fs p t ↔
      (fs.checkDestination writable p = .ok () → FileSystem.textFault? p.toText = none ∧
        HasRoom fs p ∧ HasFreeName fs p) ∧ ¬ fs.IsOverlong p ∧ ¬ fs.IsOverlong p.parent) :=
  ⟨run_ok_iff_checkDestination proper here scalar agrees,
    fun few => hasFreeName_of_length_lt few p,
    fun _ => FileSystem.checkDestination_eq_error,
    isForeseen_iff_hasRoom proper here scalar agrees⟩

/-- A destination that is accepted and replaced, and one where neither is so. -/
theorem check_foresees_replacement_crowded : crowded.here.IsProper ∧
    crowded.IsReached crowded.here ∧ Text.IsScalar "new\n" ∧
    Disturbance.AgreesWith undisturbed true ∧ Disturbance.AgreesWith (permitted false) false ∧
    crowded.checkDestination true (Path.parse "../d/out") = .ok () ∧
    (run undisturbed crowded (Path.parse "../d/out") "new\n").outcome = .ok () ∧
    IsForeseen undisturbed true crowded (Path.parse "../d/out") "new\n" ∧
    IsForeseen (permitted false) false crowded (Path.parse "../d/out") "new\n" := by
  have plain : Text.encode "new\n" = .ok (Text.octets "new\n") := by decide +kernel
  have scalar : Text.IsScalar "new\n" := (Text.encode_eq_ok_iff.1 plain).1
  have here : crowded.IsReached crowded.here := by
    unfold FileSystem.IsReached
    decide +kernel
  have check : crowded.checkDestination true (Path.parse "../d/out") = .ok () := by decide +kernel
  have passable : FileSystem.textFault? (Path.parse "../d/out").toText = none := by decide +kernel
  have room : HasRoom crowded (Path.parse "../d/out") := ⟨by decide +kernel, by decide +kernel⟩
  have short : ¬ crowded.IsOverlong (Path.parse "../d/out") ∧
      ¬ crowded.IsOverlong (Path.parse "../d/out").parent := by
    unfold FileSystem.IsOverlong
    exact ⟨by decide +kernel, by decide +kernel⟩
  have agrees : Disturbance.AgreesWith undisturbed true :=
    ⟨iff_of_true rfl rfl, rfl, rfl⟩
  have agrees' : Disturbance.AgreesWith (permitted false) false := agreesWith_permitted false
  obtain ⟨outcome, few, -, foreseen⟩ :=
    check_foresees_replacement isProper_crowded here scalar agrees (Path.parse "../d/out")
  obtain ⟨-, -, -, foreseen'⟩ :=
    check_foresees_replacement isProper_crowded here scalar agrees' (Path.parse "../d/out")
  have free : HasFreeName crowded (Path.parse "../d/out") := few (by decide)
  exact ⟨isProper_crowded, here, scalar, agrees, agrees', check,
    outcome.2 ⟨check, passable, room, free⟩, foreseen.2 ⟨fun _ => ⟨passable, room, free⟩, short⟩,
    foreseen'.2 ⟨fun _ => ⟨passable, room, free⟩, short⟩⟩

/-- A name of 242 octets is accepted, but the one of its temporary file is too long; that a name of
256 octets is too long itself is no diagnostic. -/
theorem not_isForeseen_long :
    ¬ IsForeseen undisturbed true ⟨[], []⟩ (Path.parse (List.replicate 242 'a')) "new\n" ∧
      ¬ IsForeseen undisturbed true ⟨[], []⟩ (Path.parse (List.replicate 256 'a')) "new\n" := by
  constructor
  · intro foreseen
    have check : FileSystem.checkDestination ⟨[], []⟩ true (Path.parse (List.replicate 242 'a')) =
        .ok () := by
      decide +kernel
    have refused : (run undisturbed ⟨[], []⟩ (Path.parse (List.replicate 242 'a'))
        "new\n").outcome ≠ .ok () := by
      decide +kernel
    exact refused (foreseen.accepted.1 check)
  · intro foreseen
    have check : FileSystem.checkDestination ⟨[], []⟩ true (Path.parse (List.replicate 256 'a')) =
        .error (.fault (.system
          ⟨.nameTooLong, (Path.parse (List.replicate 256 'a')).toText, none⟩)) := by
      decide +kernel
    obtain ⟨reason, hreason⟩ := foreseen.refused _ check
    cases hreason

end Replacement

end GoLexicon
