import GoLexicon.FileSystem.Replacement
import GoLexicon.Proofs.FileSystem.Entries
import GoLexicon.Proofs.Text.Utf8
/-!
# A file is replaced, or kept

A replacement that goes well leaves the new content at its destination and changes nothing else
(`FileSystem.IsReplaced`). One that fails leaves the destination as it was, and everything else that
was there (`FileSystem.IsKept`), whatever befalls its operations. That the temporary file is none of
the places on the way to the destination is what both rest on: it stands beside the destination,
under a longer name (`not_isPrefix_of_freshLocation`).

Destinations are settled here: they begin at the root and have no `..` in them.
-/

namespace GoLexicon

/-! ## Settled paths -/

namespace Path

/-- A path that begins at the root and has no `..`. -/
def IsSettled (p : Path) : Prop := p.anchor = .root ∧ up ∉ p.names

theorem up_not_mem_settle (names : List Text) : up ∉ settle names := by
  have kept : ∀ (rest done : List Text), up ∉ done → up ∉ rest.foldl settleStep done := by
    intro rest
    induction rest with
    | nil => exact fun _ => id
    | cons name rest ih =>
      intro done h
      refine ih _ ?_
      unfold settleStep
      split
      · exact fun hm => h (List.dropLast_subset _ hm)
      · next hname => simpa [h, eq_comm] using hname
  exact kept names [] List.not_mem_nil

theorem settle_eq_self {names : List Text} (h : up ∉ names) : settle names = names := by
  have appended : ∀ (rest done : List Text), up ∉ rest →
      rest.foldl settleStep done = done ++ rest := by
    intro rest
    induction rest with
    | nil => exact fun done _ => (List.append_nil done).symm
    | cons name rest ih =>
      intro done h
      have hname : name ≠ up := (List.ne_of_not_mem_cons h).symm
      rw [List.foldl_cons, settleStep, if_neg hname, ih _ (List.not_mem_of_not_mem_cons h),
        List.append_assoc, List.singleton_append]
  exact appended names [] h

theorem join_of_ne_here {p q : Path} (h : q.anchor ≠ .here) : p.join q = q := by
  unfold join
  split
  · next hq => exact absurd hq h
  · rfl

theorem join_of_here {p q : Path} (h : q.anchor = .here) :
    (p.join q).anchor = p.anchor ∧ (p.join q).names = p.names ++ q.names := by
  unfold join
  split
  · exact ⟨rfl, rfl⟩
  · next hq => exact absurd h hq

/-- What is settled already stays as it is. -/
theorem absolute_of_isSettled {directory p : Path} (h : p.IsSettled) :
    (absolute directory p).anchor = .root ∧ (absolute directory p).names = p.names := by
  have joined : directory.join p = p := join_of_ne_here (by simp [h.1])
  refine ⟨?_, ?_⟩
  · change (directory.join p).anchor = .root
    rw [joined, h.1]
  · change settle (directory.join p).names = p.names
    rw [joined, settle_eq_self h.2]

theorem IsSettled.parent {p : Path} (h : p.IsSettled) : p.parent.IsSettled :=
  ⟨h.1, fun hm => h.2 (List.dropLast_subset _ hm)⟩

/-- A text without slashes that is a name is a path of one name. -/
theorem parse_of_isName {t : Text} (h : IsName t) :
    (parse t).anchor = .here ∧ (parse t).names = [t] := by
  have whole : ∀ u : Text, CodePoint.ofChar '/' ∉ u → u.splitAt '/' = [u] := by
    intro u
    induction u with
    | nil => exact fun _ => rfl
    | cons c rest ih =>
      intro hu
      rw [Text.splitAt, if_neg (List.ne_of_not_mem_cons hu).symm,
        ih (List.not_mem_of_not_mem_cons hu)]
  constructor
  · have noSlash : t.takeWhile (· = CodePoint.ofChar '/') = [] := by
      cases t with
      | nil => rfl
      | cons c rest =>
        have hc : c ≠ CodePoint.ofChar '/' := (List.ne_of_not_mem_cons h.2.2).symm
        exact List.takeWhile_cons_of_neg (by simpa using hc)
    change anchorOf t = .here
    rw [anchorOf, noSlash]
    rfl
  · change namesAmong (t.splitAt '/') = [t]
    rw [whole t h.2.2]
    simp [namesAmong, h]

end Path

namespace FileSystem

variable {fs fs' : FileSystem} {p : Path}

/-- A settled path leads to the location of its names. -/
theorem locate_eq_ok (settled : p.IsSettled) {location : Location} {e : Option Entry}
    (h : fs.locate p = .ok (location, e)) : location = p.names ∧ e = fs.entry? p.names := by
  have start : fs.start p = [] := by rw [FileSystem.start, settled.1]
  rw [locate, start] at h
  split at h
  · cases h
  · split at h
    · cases h
    · cases hw : fs.walk [] p.names with
      | error reason => simp [hw] at h
      | ok found =>
        simp only [hw, Except.ok.injEq] at h
        obtain ⟨hlocation, he⟩ := walk_eq_ok settled.2 (hw.trans (congrArg _ h))
        rw [List.nil_append] at hlocation
        exact ⟨hlocation, hlocation ▸ he⟩

/-- Where a settled path leads depends on nothing but what stands on the way. -/
theorem locate_of_agree (settled : p.IsSettled)
    (h : ∀ passed, passed <+: p.names → passed ≠ p.names → fs'.entry? passed = fs.entry? passed) :
    fs'.locate p = (fs.locate p).map fun (found, _) => (found, fs'.entry? found) := by
  have start : fs.start p = [] := by rw [FileSystem.start, settled.1]
  have start' : fs'.start p = [] := by rw [FileSystem.start, settled.1]
  rw [locate, locate, start, start', walk_of_agree settled.2 h]
  split
  · rfl
  · split
    · rfl
    · cases fs.walk [] p.names <;> rfl

/-- What stands in two file systems differs in one place at most. -/
def AgreeBut (fs fs' : FileSystem) (location : Location) : Prop :=
  ∀ other, other ≠ location → fs'.entry? other = fs.entry? other

/-- A file has been put where a path leads, and everything else is as it was. -/
def IsReplaced (fs fs' : FileSystem) (p : Path) (content : Bytes) : Prop :=
  ∃ location before, fs.locate p = .ok (location, before) ∧
    fs'.locate p = .ok (location, some (.file content)) ∧ fs.AgreeBut fs' location

/-- What stands where a path leads is as it was, and so is everything else that was there. -/
def IsKept (fs fs' : FileSystem) (p : Path) : Prop :=
  fs'.locate p = fs.locate p ∧
    ∀ location entry, fs.entry? location = some entry → fs'.entry? location = some entry

theorem IsKept.refl (fs : FileSystem) (p : Path) : fs.IsKept fs p := ⟨rfl, fun _ _ => id⟩

namespace AgreeBut

variable {fs'' : FileSystem} {location : Location}

theorem trans (h : fs.AgreeBut fs' location) (h' : fs'.AgreeBut fs'' location) :
    fs.AgreeBut fs'' location :=
  fun other ho => (h' other ho).trans (h other ho)

theorem put (fs : FileSystem) (location : Location) (entry : Entry) :
    fs.AgreeBut (fs.put location entry) location :=
  fun _ ho => entry?_put_of_ne ho

theorem remove (fs : FileSystem) (location : Location) :
    fs.AgreeBut (fs.remove location) location :=
  fun _ ho => entry?_remove_of_ne ho

/-- A change where nothing stood, and that is not on the way to a path, keeps what is there. -/
theorem isKept (h : fs.AgreeBut fs' location) (settled : p.IsSettled)
    (absent : fs.entry? location = none) (aside : ¬ location <+: p.names) : fs.IsKept fs' p := by
  have onWay : ∀ passed, passed <+: p.names → fs'.entry? passed = fs.entry? passed :=
    fun passed hpassed => h passed fun heq => aside (heq ▸ hpassed)
  refine ⟨?_, fun other entry hentry => ?_⟩
  · rw [locate_of_agree settled fun passed hpassed _ => onWay passed hpassed]
    cases hl : fs.locate p with
    | error fault => rfl
    | ok found =>
      obtain ⟨hlocation, he⟩ := locate_eq_ok settled hl
      have same : fs'.entry? found.1 = found.2 := by
        rw [hlocation, he, onWay _ (List.prefix_refl _)]
      exact congrArg (fun e => Except.ok (found.1, e)) same
  · rw [h other, hentry]
    rintro rfl
    rw [absent] at hentry
    cases hentry

end AgreeBut

end FileSystem

/-! ## The temporary file -/

namespace Replacement

variable {fs : FileSystem} {p : Path}

theorem mem_markOf {n : Nat} {c : CodePoint} (h : c ∈ markOf n) :
    c ∈ CodePoint.ofChar 'a' :: markCharacters := by
  obtain ⟨i, -, rfl⟩ := List.mem_map.1 h
  generalize n / Nat.pow 37 i % 37 = j
  rw [List.getD_eq_getElem?_getD]
  cases hj : markCharacters[j]? with
  | none => exact List.mem_cons_self
  | some c => exact List.mem_cons_of_mem _ (List.mem_of_getElem? hj)

theorem slash_not_mem_markOf (n : Nat) : CodePoint.ofChar '/' ∉ markOf n := by
  have free : CodePoint.ofChar '/' ∉ CodePoint.ofChar 'a' :: markCharacters := by decide
  exact fun h => free (mem_markOf h)

theorem length_temporaryName (p : Path) (mark : Text) :
    (temporaryName p mark).length = p.lastName.length + mark.length + 6 := by
  have dot : (Text.ofString ".").length = 1 := by decide
  have ending : (Text.ofString ".tmp").length = 4 := by decide
  simp only [temporaryName, List.length_append, dot, ending]
  omega

theorem isName_temporaryName {mark : Text} (hp : CodePoint.ofChar '/' ∉ p.lastName)
    (hmark : CodePoint.ofChar '/' ∉ mark) : Path.IsName (temporaryName p mark) := by
  have length := length_temporaryName p mark
  refine ⟨fun h => ?_, fun h => ?_, ?_⟩
  · rw [h, List.length_nil] at length
    omega
  · have dot : (Text.ofString ".").length = 1 := by decide
    rw [h, dot] at length
    omega
  · have dot : CodePoint.ofChar '/' ∉ Text.ofString "." := by decide
    have ending : CodePoint.ofChar '/' ∉ Text.ofString ".tmp" := by decide
    simp only [temporaryName, List.mem_append, not_or]
    exact ⟨⟨⟨⟨dot, hp⟩, dot⟩, hmark⟩, ending⟩

theorem slash_not_mem_lastName (p : Path) : CodePoint.ofChar '/' ∉ p.lastName := by
  rw [Path.lastName, List.getLastD_eq_getLast?]
  cases hl : p.names.getLast? with
  | none => exact List.not_mem_nil
  | some name => exact (p.isName name (List.mem_of_getLast? hl)).2.2

/-- The temporary file of a settled destination stands beside it. -/
theorem temporaryPath_of_isSettled (settled : p.IsSettled) {mark : Text}
    (hmark : CodePoint.ofChar '/' ∉ mark) : (temporaryPath fs p mark).IsSettled ∧
      (temporaryPath fs p mark).names = p.names.dropLast ++ [temporaryName p mark] := by
  obtain ⟨anchor, names⟩ :=
    Path.parse_of_isName (isName_temporaryName (slash_not_mem_lastName p) hmark)
  obtain ⟨above, directory⟩ := Path.absolute_of_isSettled (p := p.parent) settled.parent
  obtain ⟨hanchor, hnames⟩ := Path.join_of_here (p := Path.absolute fs.herePath p.parent) anchor
  rw [directory, names] at hnames
  refine ⟨⟨hanchor.trans above, ?_⟩, hnames⟩
  change Path.up ∉ ((Path.absolute fs.herePath p.parent).join _).names
  rw [hnames]
  intro h
  rcases List.mem_append.1 h with h | h
  · exact settled.parent.2 h
  · -- the name of a temporary file is longer than two dots
    have up : Path.up.length = 2 := by decide
    have length := length_temporaryName p mark
    rw [← List.mem_singleton.1 h, up] at length
    omega

theorem temporaryName_not_isPrefix (p : Path) (mark : Text) :
    ¬ p.names.dropLast ++ [temporaryName p mark] <+: p.names := by
  intro h
  rcases List.eq_nil_or_concat p.names with hp | ⟨above, name, hp⟩
  · rw [hp] at h
    simp at h
  · rw [List.concat_eq_append] at hp
    have last : p.lastName = name := by simp [Path.lastName, hp]
    rw [hp, List.dropLast_concat, List.prefix_append_right_inj, List.cons_prefix_cons] at h
    have length := length_temporaryName p mark
    rw [h.1, last] at length
    omega

/-- The temporary file is created where the path with one of the marks leads to nothing. -/
theorem locate_of_freshLocation {marks : List Text} {path : Path} {location : Location}
    (h : freshLocation fs p marks = .ok (path, location)) :
    ∃ mark ∈ marks, path = temporaryPath fs p mark ∧ fs.locate path = .ok (location, none) := by
  induction marks with
  | nil => cases h
  | cons mark marks ih =>
    rw [freshLocation] at h
    split at h
    · cases h
    · next found hfound =>
      obtain ⟨rfl, rfl⟩ := Prod.mk.inj (Except.ok.inj h)
      exact ⟨mark, by simp, rfl, hfound⟩
    · obtain ⟨other, hother, hlocate⟩ := ih h
      exact ⟨other, by simp [hother], hlocate⟩

/-- The temporary file is created where nothing stands, and aside of the way to its destination. -/
theorem not_isPrefix_of_freshLocation (settled : p.IsSettled) {marks : List Text}
    (hmarks : ∀ mark ∈ marks, CodePoint.ofChar '/' ∉ mark) {path : Path} {location : Location}
    (h : freshLocation fs p marks = .ok (path, location)) :
    fs.entry? location = none ∧ ¬ location <+: p.names := by
  obtain ⟨mark, hmark, rfl, hfound⟩ := locate_of_freshLocation h
  obtain ⟨hsettled, hnames⟩ := temporaryPath_of_isSettled settled (hmarks mark hmark)
  obtain ⟨rfl, absent⟩ := FileSystem.locate_eq_ok hsettled hfound
  refine ⟨absent.symm, fun hprefix => ?_⟩
  rw [hnames] at hprefix
  exact temporaryName_not_isPrefix p mark hprefix

/-! ## Replacements -/

/-- A file is renamed to where a path leads only if no directory stands there. -/
theorem locate_of_renameTarget {temporary : Path} {target : Location}
    (h : renameTarget fs temporary p = .ok target) :
    ∃ before, fs.locate p = .ok (target, before) ∧ before ≠ some .directory := by
  unfold renameTarget at h
  split at h
  · cases h
  · split at h
    · cases h
    · next location before hne hl =>
      obtain rfl := Except.ok.inj h
      exact ⟨before, hl, hne⟩
    · cases h
    · cases h

/-- How a replacement ends: with the new content in its place, or with what was there. -/
def Ends (fs : FileSystem) (p : Path) (content : Bytes) (r : Replacement) : Prop :=
  (r.outcome = .ok () ∧ fs.IsReplaced (r.final fs) p content) ∨
    ∃ f, r.outcome = .error f ∧ fs.IsKept (r.final fs) p

section steps

variable {location : Location} (settled : p.IsSettled) (absent : fs.entry? location = none)
  (aside : ¬ location <+: p.names)
include settled absent aside

theorem finish_ends {filled : FileSystem} (hfilled : fs.AgreeBut filled location)
    (disturbance : Disturbance) (temporary : Path) (content : Bytes) (before : List FileSystem) :
    Ends fs p content
      (finish disturbance fs filled temporary location p content before) := by
  have removed : fs.AgreeBut (filled.remove location) location := hfilled.trans (.remove _ _)
  have undone : fs.IsKept (filled.remove location) p := removed.isKept settled absent aside
  unfold finish
  split
  · exact .inr ⟨_, rfl, hfilled.isKept settled absent aside⟩
  split
  · exact .inr ⟨_, rfl, undone⟩
  split
  · exact .inr ⟨_, rfl, undone⟩
  · next target htarget =>
    obtain ⟨old, hl, hold⟩ := locate_of_renameTarget htarget
    obtain ⟨rfl, rfl⟩ := FileSystem.locate_eq_ok settled hl
    have inside : p.names ≠ [] := by
      intro hroot
      rw [hroot] at hold
      exact hold rfl
    have clean : ∀ other, FileSystem.entry? (filled.remove location) other = fs.entry? other := by
      intro other
      by_cases ho : other = location
      · have beside : location ≠ [] := FileSystem.ne_nil_of_entry?_eq_none absent
        rw [ho, FileSystem.entry?_remove_self beside, absent]
      · exact removed other ho
    have replaced : fs.AgreeBut ((filled.remove location).put p.names (.file content)) p.names :=
      fun other ho => (FileSystem.entry?_put_of_ne ho).trans (clean other)
    refine .inl ⟨rfl, p.names, _, hl, ?_, replaced⟩
    change FileSystem.locate ((filled.remove location).put p.names (.file content)) p = _
    rw [FileSystem.locate_of_agree settled fun passed _ hne => replaced passed hne, hl]
    exact congrArg (fun e => Except.ok (p.names, e)) (FileSystem.entry?_put_self inside)

theorem fill_ends {created : FileSystem} (hcreated : fs.AgreeBut created location)
    (disturbance : Disturbance) (temporary : Path) (t : Text) (before : List FileSystem) :
    Ends fs p t.octets (fill disturbance fs created temporary location p t before) ∧
      ((fill disturbance fs created temporary location p t before).outcome = .ok () →
        t.IsScalar) := by
  have removed : fs.AgreeBut (created.remove location) location := hcreated.trans (.remove _ _)
  rw [fill]
  cases he : t.encode with
  | error u => exact ⟨.inr ⟨_, rfl, hcreated.isKept settled absent aside⟩, nofun⟩
  | ok content =>
    obtain ⟨scalar, rfl⟩ := Text.encode_eq_ok_iff.1 he
    cases hd : disturbance .fill with
    | some reason => exact ⟨.inr ⟨_, rfl, removed.isKept settled absent aside⟩, nofun⟩
    | none =>
      refine ⟨?_, fun _ => scalar⟩
      exact finish_ends settled absent aside (hcreated.trans (.put _ _ _)) disturbance temporary
        t.octets (created :: before)

end steps

/-- **A file is replaced, or kept**: a replacement that goes well leaves the octets of the text at
its destination, and everything else as it was; one that fails leaves all that was there. -/
theorem run_ends (disturbance : Disturbance) (fs : FileSystem) (p : Path) (t : Text)
    (settled : p.IsSettled) : Ends fs p t.octets (run disturbance fs p t) ∧
      ((run disturbance fs p t).outcome = .ok () → t.IsScalar) := by
  have hmarks : ∀ mark ∈ (List.range (fs.entries.length + 1)).map markOf,
      CodePoint.ofChar '/' ∉ mark := by
    intro mark h
    obtain ⟨n, -, rfl⟩ := List.mem_map.1 h
    exact slash_not_mem_markOf n
  rw [run]
  split
  · exact ⟨.inr ⟨_, rfl, .refl fs p⟩, nofun⟩
  · exact ⟨.inr ⟨_, rfl, .refl fs p⟩, nofun⟩
  · next temporary location h =>
    obtain ⟨absent, aside⟩ := not_isPrefix_of_freshLocation settled hmarks h
    split
    · exact ⟨.inr ⟨_, rfl, .refl fs p⟩, nofun⟩
    · exact fill_ends settled absent aside (.put fs location _) disturbance temporary t [fs]

end Replacement

end GoLexicon
