import GoLexicon.Proofs.FileSystem.Temporary
/-!
# Replacing a file is atomic

At each point of a replacement the destination shows its old content or the new one, and all else
that was there is there (`Replacement.IsAtomic`). If it goes well, the new content is the only thing
that has changed (`FileSystem.IsRewritten`); if an operation is refused, the file system is what it
was before, and the failure is about the destination (`Replacement.LeavesNothing`).
`Replacement.run_is_atomic` says this of any destination, wherever its path begins and whatever `..`
it has.

The one exception are destinations whose text cannot be handed to the system. What keeps them from
being written is no refusal: the failure is a fault, and the temporary file may be left behind
(`Replacement.IsUnpassable`).

What is put where nothing stood can be taken away again without a trace
(`FileSystem.remove_put_of_absent`); that is why nothing is left of a temporary file.
-/

namespace GoLexicon

namespace FileSystem

variable {fs fs' : FileSystem} {p : Path} {location target : Location} {entry : Entry}

/-! ## Putting something where nothing stood -/

theorem ne_of_mem_entries (absent : fs.entry? location = none) :
    ∀ e ∈ fs.entries, e.1 ≠ location := by
  rw [entry?_of_ne_nil (ne_nil_of_entry?_eq_none absent), List.lookup_eq_none_iff] at absent
  intro e he heq
  simpa [heq] using absent e he

theorem put_of_absent (absent : fs.entry? location = none) (entry : Entry) :
    fs.put location entry = { fs with entries := fs.entries ++ [(location, entry)] } := by
  have hlookup : fs.entries.lookup location = none := by
    rwa [← entry?_of_ne_nil (ne_nil_of_entry?_eq_none absent)]
  rw [put]
  exact if_pos (length_filter_eq_iff.2 hlookup)

/-- What is put twice where nothing stood is put once. -/
theorem put_put_of_absent (absent : fs.entry? location = none) (first second : Entry) :
    (fs.put location first).put location second = fs.put location second := by
  have hne := ne_of_mem_entries absent
  rw [put_of_absent absent, put_of_absent absent, put]
  have hfilter : (fs.entries ++ [(location, first)]).filter (fun e => decide (e.1 ≠ location)) =
      fs.entries := by
    rw [List.filter_append, List.filter_eq_self.2 fun e he => decide_eq_true (hne e he)]
    simp
  have hmap : fs.entries.map (fun e => (e.1, if e.1 = location then second else e.2)) =
      fs.entries := by
    conv_rhs => rw [← List.map_id fs.entries]
    apply List.map_congr_left
    intro e he
    simp [hne e he]
  simp only [hfilter, List.length_append, List.length_singleton, List.map_append, hmap]
  simp

/-- What is put where nothing stood can be taken away without a trace. -/
theorem remove_put_of_absent (absent : fs.entry? location = none) (entry : Entry) :
    (fs.put location entry).remove location = fs := by
  have hne := ne_of_mem_entries absent
  have hfilter : (fs.entries ++ [(location, entry)]).filter (fun e => decide (e.1 ≠ location)) =
      fs.entries := by
    rw [List.filter_append, List.filter_eq_self.2 fun e he => decide_eq_true (hne e he)]
    simp
  rw [put_of_absent absent, remove]
  simp only [hfilter]

/-! ## What a change leaves as it was -/

/-- A path shows what it showed, and everything that was there is there. -/
structure IsSpared (fs fs' : FileSystem) (p : Path) : Prop where
  look : fs'.look p = fs.look p
  entry : ∀ location entry, fs.entry? location = some entry → fs'.entry? location = some entry

/-- A path leads to a location, whatever stands there. -/
def LeadsTo (fs : FileSystem) (p : Path) (location : Location) : Prop :=
  ∃ e, fs.locate p = .ok (location, e)

/-- A file has been put where a path leads. At each other location stands what stood there, and each
path that does not lead to the same location shows what it showed. -/
structure IsRewritten (fs fs' : FileSystem) (p : Path) (content : Bytes) : Prop where
  replaced : fs.IsReplaced fs' p content
  shown : fs'.look p = .ok (some (.file content))
  elsewhere : ∀ q, (¬ ∃ location, fs.LeadsTo p location ∧ fs.LeadsTo q location) →
    fs'.look q = fs.look q
  here : fs'.here = fs.here

theorem IsSpared.refl (fs : FileSystem) (p : Path) : fs.IsSpared fs p := ⟨rfl, fun _ _ => id⟩

/-- A file that is put where nothing stood spares the paths that do not lead there. -/
theorem isSpared_put (absent : fs.entry? location = none)
    (aside : ∀ e, fs.locate p ≠ .ok (location, e)) (content : Bytes) :
    fs.IsSpared (fs.put location (.file content)) p where
  look := by
    have before : fs.entry? location ≠ some .directory := by simp [absent]
    have after : entry? (fs.put location (.file content)) location ≠ some .directory := by
      simp [entry?_put_self (ne_nil_of_entry?_eq_none absent)]
    exact look_of_agreeBut (.put fs location _) before after (here_put _ _ _) aside
  entry other entry h := by
    have hne : other ≠ location := by
      rintro rfl
      simp [absent] at h
    rw [entry?_put_of_ne hne, h]

/-- A file that is put where a path leads rewrites what stands there, unless it is a directory. -/
theorem isRewritten_put {old : Option Entry} (hl : fs.locate p = .ok (target, old))
    (hold : old ≠ some .directory) (content : Bytes) :
    fs.IsRewritten (fs.put target (.file content)) p content := by
  have hentry : fs.entry? target = old := (locate_end hl).2.symm
  have before : fs.entry? target ≠ some .directory := by rwa [hentry]
  have inside : target ≠ [] := by
    rintro rfl
    exact before (entry?_nil fs)
  have after : entry? (fs.put target (.file content)) target = some (.file content) :=
    entry?_put_self inside
  have located : (fs.put target (.file content)).locate p = .ok (target, some (.file content)) := by
    rw [locate_of_agreeBut (.put fs target _) before (here_put _ _ _) hl, after]
  refine ⟨⟨target, old, hl, located, .put fs target _⟩, ?_, fun q hq => ?_, here_put _ _ _⟩
  · rw [look, located]
  · have aside : ∀ e, fs.locate q ≠ .ok (target, e) := fun e he =>
      hq ⟨target, ⟨old, hl⟩, ⟨e, he⟩⟩
    exact look_of_agreeBut (.put fs target _) before (by simp [after]) (here_put _ _ _) aside

end FileSystem

namespace Replacement

variable {disturbance : Disturbance} {fs : FileSystem} {p temporary : Path} {t : Text}
  {content : Bytes} {location : Location}

/-! ## The operations -/

/-- A replacement fails with the diagnostic on its destination, and leaves nothing behind. -/
def LeavesNothing (fs : FileSystem) (p : Path) (r : Replacement) : Prop :=
  (∃ e, r.outcome = .error (unwritable p e)) ∧ r.final fs = fs

/-- A replacement fails with a fault that is no refusal, as the text of its destination cannot be
handed to the system. Nothing has changed, or the new content is left behind where nothing stood. -/
structure IsUnpassable (fs : FileSystem) (p : Path) (content : Bytes) (r : Replacement) : Prop where
  text : FileSystem.textFault? p.toText ≠ none
  fault : ∃ fault, r.outcome = .error (.fault fault) ∧ ∀ e, fault ≠ .system e
  left : r.final fs = fs ∨
    ∃ location, fs.entry? location = none ∧ r.final fs = fs.put location (.file content)

/-- Each state of a replacement shows the old content of the destination or the new one. Where it
goes well the last one shows the new one; where it fails, nothing is left behind, unless the text of
the destination cannot be handed to the system. -/
structure IsAtomic (fs : FileSystem) (p : Path) (content : Bytes) (r : Replacement) : Prop where
  between : ∀ s ∈ r.states, fs.IsSpared s p ∨ fs.IsRewritten s p content
  done : r.outcome = .ok () → fs.IsRewritten (r.final fs) p content
  undone : r.outcome ≠ .ok () → LeavesNothing fs p r ∨ IsUnpassable fs p content r

/-- Some states of a replacement that only spare the destination, and a failure. -/
theorem isAtomic_of_error {states : List FileSystem} {f : Failure}
    (spared : ∀ s ∈ states, fs.IsSpared s p)
    (h : LeavesNothing fs p ⟨states, .error f⟩ ∨ IsUnpassable fs p content ⟨states, .error f⟩) :
    IsAtomic fs p content ⟨states, .error f⟩ :=
  ⟨fun s hs => .inl (spared s hs), nofun, fun _ => h⟩

/-- A replacement that is refused before it has done anything. -/
theorem isAtomic_of_refused (e : SystemError) :
    IsAtomic fs p content ⟨[fs], .error (unwritable p e)⟩ :=
  isAtomic_of_error (List.forall_mem_singleton.2 (.refl fs p)) (.inl ⟨⟨e, rfl⟩, rfl⟩)

/-- Some states of a replacement that only spare the destination, followed by a last one that is the
initial one. -/
theorem isAtomic_of_undone {before : List FileSystem} (spared : ∀ s ∈ before, fs.IsSpared s p)
    (e : SystemError) : IsAtomic fs p content ⟨fs :: before, .error (unwritable p e)⟩ :=
  isAtomic_of_error (List.forall_mem_cons.2 ⟨.refl fs p, spared⟩) (.inl ⟨⟨e, rfl⟩, rfl⟩)

section steps

variable (absent : fs.entry? location = none) (aside : ∀ e, fs.locate p ≠ .ok (location, e))
include absent aside

theorem finish_isAtomic (disturbance : Disturbance) (temporary : Path) (content : Bytes)
    {before : List FileSystem} (spared : ∀ s ∈ before, fs.IsSpared s p) :
    IsAtomic fs p content
      (finish disturbance fs (fs.put location (.file content)) temporary location p content
        before) := by
  have cleaned : (fs.put location (.file content)).remove location = fs :=
    FileSystem.remove_put_of_absent absent _
  have filled : fs.IsSpared (fs.put location (.file content)) p :=
    FileSystem.isSpared_put absent aside content
  have spared' : ∀ s ∈ fs.put location (.file content) :: before, fs.IsSpared s p :=
    List.forall_mem_cons.2 ⟨filled, spared⟩
  unfold finish
  simp only [cleaned]
  split
  · next fault hfault =>
    refine isAtomic_of_error spared' (.inr ⟨by simp [hfault], ⟨fault, rfl, ?_⟩, ?_⟩)
    · rintro e rfl
      exact absurd hfault FileSystem.textFault?_ne_system
    · exact .inr ⟨location, absent, rfl⟩
  split
  · exact isAtomic_of_undone spared' _
  split
  · exact isAtomic_of_undone spared' _
  · next target htarget =>
    obtain ⟨old, hl, hold⟩ := locate_of_renameTarget htarget
    have rewritten := FileSystem.isRewritten_put hl hold content
    refine ⟨fun s hs => ?_, fun _ => rewritten, fun failed => absurd rfl failed⟩
    rcases List.mem_cons.1 hs with rfl | hs
    · exact .inr rewritten
    · exact .inl (spared' s hs)

theorem fill_isAtomic (scalar : t.IsScalar) (disturbance : Disturbance) (temporary : Path)
    {before : List FileSystem} (spared : ∀ s ∈ before, fs.IsSpared s p) :
    IsAtomic fs p t.octets (fill disturbance fs (fs.put location (.file [])) temporary location p t
      before) := by
  have created : fs.IsSpared (fs.put location (.file [])) p :=
    FileSystem.isSpared_put absent aside []
  have spared' : ∀ s ∈ fs.put location (.file []) :: before, fs.IsSpared s p :=
    List.forall_mem_cons.2 ⟨created, spared⟩
  have hencode : t.encode = .ok t.octets := Text.encode_eq_ok_iff.2 ⟨scalar, rfl⟩
  rw [fill, hencode, FileSystem.remove_put_of_absent absent]
  simp only [FileSystem.put_put_of_absent absent]
  split
  · exact isAtomic_of_undone spared' _
  · exact finish_isAtomic absent aside disturbance temporary t.octets spared'

end steps

/-! ## The whole replacement -/

/-- The marks that are tried for a temporary file. -/
def marksFor (fs : FileSystem) : List Text := (List.range (fs.entries.length + 1)).map markOf

theorem slash_not_mem_of_mem_marksFor : ∀ mark ∈ marksFor fs, CodePoint.ofChar '/' ∉ mark := by
  intro mark hmark
  obtain ⟨n, -, rfl⟩ := List.mem_map.1 hmark
  exact slash_not_mem_markOf n

theorem run_isAtomic (disturbance : Disturbance) (p : Path) (scalar : t.IsScalar)
    (proper : fs.here.IsProper) : IsAtomic fs p t.octets (run disturbance fs p t) := by
  rw [run]
  split
  · exact isAtomic_of_refused _
  · next fault hsystem hfresh =>
    have hsystem : ∀ e, fault ≠ .system e := fun e he => hsystem e he
    have unpassable := textFault?_ne_none_of_freshLocation proper hfresh hsystem
    exact isAtomic_of_error (List.forall_mem_singleton.2 (.refl fs p))
      (.inr ⟨unpassable, ⟨fault, rfl, hsystem⟩, .inl rfl⟩)
  · next temporary location hfresh =>
    obtain ⟨absent, mark, rfl⟩ := of_freshLocation proper slash_not_mem_of_mem_marksFor hfresh
    split
    · exact isAtomic_of_refused _
    · exact fill_isAtomic absent (locate_ne_temporary p mark) scalar disturbance temporary
        (List.forall_mem_singleton.2 (.refl fs p))

/-- Nothing hinders a replacement: a temporary file can be created and renamed, and no operation is
refused. -/
def IsUnhindered (disturbance : Disturbance) (fs : FileSystem) (p : Path) : Prop :=
  (∀ step, disturbance step = none) ∧ ∃ temporary location target,
    freshLocation fs p (marksFor fs) = .ok (temporary, location) ∧
      renameTarget fs temporary p = .ok target

theorem finish_ok_iff {filled : FileSystem} {before : List FileSystem} :
    (finish disturbance fs filled temporary location p content before).outcome = .ok () ↔
      disturbance .rename = none ∧ ∃ target, renameTarget fs temporary p = .ok target := by
  unfold finish
  cases hfault : FileSystem.textFault? p.toText with
  | some fault =>
    -- nothing is found where a path leads that cannot be handed to the system
    have nowhere : ¬ ∃ target, renameTarget fs temporary p = .ok target := by
      rintro ⟨target, htarget⟩
      obtain ⟨old, hl, -⟩ := locate_of_renameTarget htarget
      exact nomatch hfault.symm.trans (FileSystem.locate_eq_ok_iff.1 hl).1
    simp [nowhere]
  | none =>
    cases hrename : disturbance .rename with
    | some reason => simp
    | none => cases htarget : renameTarget fs temporary p <;> simp

theorem fill_ok_iff {created : FileSystem} {before : List FileSystem} (scalar : t.IsScalar) :
    (fill disturbance fs created temporary location p t before).outcome = .ok () ↔
      disturbance .fill = none ∧ disturbance .rename = none ∧
        ∃ target, renameTarget fs temporary p = .ok target := by
  have hencode : t.encode = .ok t.octets := Text.encode_eq_ok_iff.2 ⟨scalar, rfl⟩
  rw [fill, hencode]
  cases hfill : disturbance .fill with
  | some reason => simp
  | none => simp [finish_ok_iff]

/-- A replacement goes well exactly when nothing hinders it. -/
theorem run_ok_iff (scalar : t.IsScalar) :
    (run disturbance fs p t).outcome = .ok () ↔ IsUnhindered disturbance fs p := by
  have undisturbed : (∀ step, disturbance step = none) ↔
      disturbance .create = none ∧ disturbance .fill = none ∧ disturbance .rename = none := by
    constructor
    · exact fun h => ⟨h .create, h .fill, h .rename⟩
    · rintro ⟨hcreate, hfill, hrename⟩ step
      cases step <;> assumption
  rw [IsUnhindered, undisturbed, marksFor, run]
  split
  · next e hfresh => simp [hfresh]
  · next fault _ hfresh => simp [hfresh]
  · next temporary location hfresh =>
    cases hcreate : disturbance .create with
    | some reason => simp
    | none => simp [hfresh, fill_ok_iff scalar, and_assoc]

/-- **Replacing a file is atomic**: at each point the destination shows its old content or the
octets of the text. It goes well exactly when nothing hinders it, and then the octets are there and
nothing else has changed. Otherwise the failure is the diagnostic on the destination and nothing has
changed at all, if the text of the destination can be handed to the system. If it cannot, the
failure may as well be a fault, and then the octets may be left behind where nothing stood. -/
theorem run_is_atomic (disturbance : Disturbance) (fs : FileSystem) (p : Path) (t : Text)
    (scalar : t.IsScalar) (proper : fs.here.IsProper) :
    (∀ s ∈ (run disturbance fs p t).states,
      fs.IsSpared s p ∨ fs.IsRewritten s p t.octets) ∧
    ((run disturbance fs p t).outcome = .ok () ↔ IsUnhindered disturbance fs p) ∧
    ((run disturbance fs p t).outcome = .ok () →
      fs.IsRewritten ((run disturbance fs p t).final fs) p t.octets) ∧
    ((run disturbance fs p t).outcome ≠ .ok () → FileSystem.textFault? p.toText = none →
      LeavesNothing fs p (run disturbance fs p t)) ∧
    ((run disturbance fs p t).outcome ≠ .ok () →
      LeavesNothing fs p (run disturbance fs p t) ∨
        IsUnpassable fs p t.octets (run disturbance fs p t)) := by
  have atomic : IsAtomic fs p t.octets (run disturbance fs p t) :=
    run_isAtomic disturbance p scalar proper
  refine ⟨atomic.between, run_ok_iff scalar, atomic.done, fun failed passable => ?_, atomic.undone⟩
  exact (atomic.undone failed).resolve_right fun unpassable => unpassable.text passable

/-- A directory with a file, and one that has the name of a temporary file for it. -/
def crowded : FileSystem where
  entries := [(["d"], .directory), (["d", "out"], .file [0x6F, 0x0A]),
    (["d", ".out.aaaaaaaa.tmp"], .file [0x78])]
  here := ["d"]

theorem isProper_crowded : crowded.here.IsProper := by
  intro name hname
  rw [List.mem_singleton.1 hname]
  exact ⟨by decide +kernel, by decide +kernel, by decide +kernel⟩

theorem run_is_atomic_crowded : Text.IsScalar "new\n" ∧ crowded.here.IsProper ∧
    (run undisturbed crowded (Path.parse "../d/out") "new\n").outcome = .ok () ∧
    crowded.IsRewritten ((run undisturbed crowded (Path.parse "../d/out") "new\n").final crowded)
      (Path.parse "../d/out") (Text.octets "new\n") ∧
    LeavesNothing crowded (Path.parse "../d/out")
      (run (fun _ => some .noSpace) crowded (Path.parse "../d/out") "new\n") := by
  have plain : Text.encode "new\n" = .ok (Text.octets "new\n") := by decide +kernel
  have scalar : Text.IsScalar "new\n" := (Text.encode_eq_ok_iff.1 plain).1
  have done : (run undisturbed crowded (Path.parse "../d/out") "new\n").outcome = .ok () := by
    decide +kernel
  have failed : (run (fun _ => some .noSpace) crowded (Path.parse "../d/out") "new\n").outcome ≠
      .ok () := by
    decide +kernel
  obtain ⟨-, -, rewritten, -⟩ :=
    run_is_atomic undisturbed crowded (Path.parse "../d/out") "new\n" scalar isProper_crowded
  obtain ⟨-, -, -, undone, -⟩ :=
    run_is_atomic (fun _ => some .noSpace) crowded (Path.parse "../d/out") "new\n" scalar
      isProper_crowded
  exact ⟨scalar, isProper_crowded, done, rewritten done, undone failed (by decide +kernel)⟩

/-- A destination with a lone surrogate is accepted by the check and has no NUL, and what keeps it
from being written is a fault and no diagnostic. -/
theorem not_leavesNothing_surrogate : ¬ ∀ (fs : FileSystem) (p : Path) (t : Text),
    fs.here.IsProper → CodePoint.ofChar '\x00' ∉ p.toText →
      fs.checkDestination true p = .ok () → t.IsScalar →
        (run undisturbed fs p t).outcome ≠ .ok () →
          LeavesNothing fs p (run undisturbed fs p t) := by
  intro tidy
  have failed : (run undisturbed ⟨[], []⟩ (Path.parse [0xD800]) "x\n").outcome =
      .error (.fault (.unencodable ⟨[0xD800], 2⟩)) := by
    decide +kernel
  obtain ⟨⟨e, he⟩, -⟩ := tidy ⟨[], []⟩ (Path.parse [0xD800]) "x\n" nofun (by decide +kernel)
    (by decide +kernel) (Text.isScalar_ofString _) (by simp [failed])
  exact nomatch failed.symm.trans he

end Replacement

end GoLexicon
