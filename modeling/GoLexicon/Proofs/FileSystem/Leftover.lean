import GoLexicon.Proofs.FileSystem.Destination
/-!
# What is left of a text that cannot be encoded

A text with lone surrogates cannot be encoded. That comes out when the temporary file has been
created, and it is no refusal of the system, so nothing removes the temporary file: it is left
behind, empty, beside the destination (`Replacement.LeavesTemporary`), and the failure is a fault
and no diagnostic. Nothing is left exactly where the temporary file cannot be created in the first
place (`Replacement.run_of_unencodable`).
-/

namespace GoLexicon

namespace FileSystem

variable {fs : FileSystem} {above : Location} {name : Text}

/-- What is put where nothing stood is one more name in its directory, the last one, and adds to no
other directory. -/
theorem namesIn_put_concat (absent : fs.entry? (above ++ [name]) = none) (entry : Entry)
    (directory : Location) : (fs.put (above ++ [name]) entry).namesIn directory =
      fs.namesIn directory ++ if directory = above then [name] else [] := by
  rw [put_of_absent absent, namesIn, List.filterMap_append]
  refine congrArg (fs.namesIn directory ++ ·) ?_
  by_cases h : directory = above
  · simp [h]
  · have other : above ≠ directory := fun h' => h h'.symm
    simp [h, other]

end FileSystem

namespace Replacement

variable {fs : FileSystem} {p : Path} {t : Text} {disturbance : Disturbance} {writable : Bool}

/-- A temporary file is left behind, empty, in the directory above the destination, under a name
that was free. Nothing else has changed. -/
structure LeavesTemporary (fs fs' : FileSystem) (p : Path) (mark : Text) : Prop where
  absent : fs.entry? (fs.above p ++ [temporaryName p mark]) = none
  left : fs'.entry? (fs.above p ++ [temporaryName p mark]) = some (.file [])
  elsewhere : fs.AgreeBut fs' (fs.above p ++ [temporaryName p mark])
  listed : ∀ directory, fs'.namesIn directory =
    fs.namesIn directory ++ if directory = fs.above p then [temporaryName p mark] else []
  shown : fs'.look p = fs.look p
  here : fs'.here = fs.here

theorem LeavesTemporary.ne {fs' : FileSystem} {mark : Text} (h : LeavesTemporary fs fs' p mark) :
    fs' ≠ fs := by
  rintro rfl
  exact nomatch h.absent.symm.trans h.left

theorem leavesTemporary_put {mark : Text}
    (absent : fs.entry? (fs.above p ++ [temporaryName p mark]) = none) :
    LeavesTemporary fs (fs.put (fs.above p ++ [temporaryName p mark]) (.file [])) p mark where
  absent := absent
  left := FileSystem.entry?_put_self (FileSystem.ne_nil_of_entry?_eq_none absent)
  elsewhere := .put fs _ _
  listed := FileSystem.namesIn_put_concat absent _
  shown := (FileSystem.isSpared_put absent (locate_ne_temporary p mark) []).look
  here := FileSystem.here_put fs _ _

/-- A temporary file for the destination can be created. -/
def IsCreatable (disturbance : Disturbance) (fs : FileSystem) (p : Path) : Prop :=
  FileSystem.textFault? p.toText = none ∧ disturbance .create = none ∧
    HasRoom fs p ∧ HasFreeName fs p

/-! ## The three ways -/

theorem isReached_of_checkDestination (here : fs.IsReached fs.here)
    (check : fs.checkDestination writable p = .ok ()) : fs.IsReached (fs.above p) := by
  obtain ⟨-, above, -⟩ := FileSystem.checkDestination_eq_ok_iff.1 check
  obtain ⟨found, hparent⟩ := FileSystem.isDirectory?_eq_ok_true_iff.1 above
  exact FileSystem.isReached_above here hparent

/-- Where the temporary file can be created, it is what is left. -/
theorem run_of_isCreatable (proper : fs.here.IsProper) (reached : fs.IsReached (fs.above p))
    (creatable : IsCreatable disturbance fs p) {u : Utf8.Unencodable} (h : t.encode = .error u) :
    (run disturbance fs p t).outcome = .error (.fault (.unencodable u)) ∧
      ∃ mark, LeavesTemporary fs ((run disturbance fs p t).final fs) p mark := by
  obtain ⟨passable, hcreate, room, free⟩ := creatable
  obtain ⟨temporary, location, hfresh⟩ :=
    (exists_freshLocation_iff proper reached passable).2 ⟨room, free⟩
  obtain ⟨absent, mark, rfl⟩ := of_freshLocation proper slash_not_mem_of_mem_marksFor hfresh
  have whole : run disturbance fs p t =
      ⟨[fs.put (fs.above p ++ [temporaryName p mark]) (.file []), fs],
        .error (.fault (.unencodable u))⟩ := by
    rw [marksFor] at hfresh
    simp only [run, hfresh, hcreate, fill, h]
  rw [whole]
  exact ⟨rfl, mark, leavesTemporary_put absent⟩

/-- Where only the system keeps the temporary file from being created, nothing is left. -/
theorem run_of_not_isCreatable (proper : fs.here.IsProper) (reached : fs.IsReached (fs.above p))
    (passable : FileSystem.textFault? p.toText = none)
    (h : ¬ IsCreatable disturbance fs p) : LeavesNothing fs p (run disturbance fs p t) := by
  rw [run]
  split
  · exact ⟨⟨_, rfl⟩, rfl⟩
  · next fault hsystem hfresh =>
    exact absurd passable (textFault?_ne_none_of_freshLocation proper hfresh hsystem)
  · next temporary location hfresh =>
    obtain ⟨room, free⟩ := (exists_freshLocation_iff proper reached passable).1 ⟨_, _, hfresh⟩
    cases hcreate : disturbance .create with
    | some reason => exact ⟨⟨_, rfl⟩, rfl⟩
    | none => exact absurd ⟨passable, hcreate, room, free⟩ h

/-- The names of temporary files cannot be handed to the system if that of the destination
cannot. -/
theorem textFault?_temporaryPath_ne_none (proper : fs.here.IsProper)
    (above : FileSystem.textFault? p.parent.toText = none)
    (h : FileSystem.textFault? p.toText ≠ none) {mark : Text}
    (hmark : CodePoint.ofChar '/' ∉ mark) :
    FileSystem.textFault? (temporaryPath fs p mark).toText ≠ none := by
  intro passable
  rw [Path.textFault?_toText_iff, (temporaryPath_eq proper hmark).2] at passable
  rw [Path.textFault?_toText_iff] at above
  refine h (Path.textFault?_toText_iff.2 fun name hname c hc => ?_)
  have whole : p.names ≠ [] := List.ne_nil_of_mem hname
  rw [← Path.parent_names_append whole] at hname
  rcases List.mem_append.1 hname with hname | hname
  · exact above name hname c hc
  · -- the last name is a part of the name of the temporary file
    rw [List.mem_singleton.1 hname] at hc
    refine passable (temporaryName p mark) (by simp) c ?_
    simp only [temporaryName, List.mem_append]
    exact .inl (.inl (.inl (.inr hc)))

/-- Where the text of the destination cannot be handed to the system, that is the fault, and nothing
has been done. -/
theorem run_of_textFault? (proper : fs.here.IsProper)
    (above : FileSystem.textFault? p.parent.toText = none)
    (h : FileSystem.textFault? p.toText ≠ none) :
    (∃ fault, (run disturbance fs p t).outcome = .error (.fault fault) ∧
      ∀ e, fault ≠ .system e) ∧ (run disturbance fs p t).final fs = fs := by
  obtain ⟨fault, hfault⟩ := Option.ne_none_iff_exists'.1
    (textFault?_temporaryPath_ne_none proper above h (slash_not_mem_markOf 0))
  have first : freshLocation fs p ((List.range (fs.entries.length + 1)).map markOf) =
      .error fault := by
    have refused : fs.locate (temporaryPath fs p (markOf 0)) = .error fault := by
      simp only [FileSystem.locate, hfault]
    rw [List.range_succ_eq_map, List.map_cons, freshLocation, refused]
  have hsystem : ∀ e, fault ≠ .system e := by
    rintro e rfl
    exact absurd hfault FileSystem.textFault?_ne_system
  have whole : run disturbance fs p t = ⟨[fs], .error (.fault fault)⟩ := by
    unfold run
    simp only [first]
  rw [whole]
  exact ⟨⟨fault, rfl, hsystem⟩, rfl⟩

/-- **What is left of a text that cannot be encoded**, where the check accepts the destination and
whatever befalls the operations. If the temporary file can be created, it is left behind, empty, and
the failure is the fault of the text. If only the system keeps it from being created, the failure is
the diagnostic on the destination and nothing has changed. Where the text of the destination cannot
be handed to the system, nothing has changed either, but the failure is a fault. So a text that
cannot be encoded leaves nothing behind, and is refused with the diagnostic, exactly in the second
case. -/
theorem run_of_unencodable (proper : fs.here.IsProper) (here : fs.IsReached fs.here)
    (check : fs.checkDestination writable p = .ok ()) (unencodable : ¬ t.IsScalar)
    (disturbance : Disturbance) :
    (IsCreatable disturbance fs p → ∃ u, t.encode = .error u ∧
      (run disturbance fs p t).outcome = .error (.fault (.unencodable u)) ∧
      ∃ mark, LeavesTemporary fs ((run disturbance fs p t).final fs) p mark) ∧
    (¬ IsCreatable disturbance fs p → FileSystem.textFault? p.toText = none →
      LeavesNothing fs p (run disturbance fs p t)) ∧
    (FileSystem.textFault? p.toText ≠ none →
      (∃ fault, (run disturbance fs p t).outcome = .error (.fault fault) ∧
        ∀ e, fault ≠ .system e) ∧ (run disturbance fs p t).final fs = fs) ∧
    (LeavesNothing fs p (run disturbance fs p t) ↔
      FileSystem.textFault? p.toText = none ∧ ¬ IsCreatable disturbance fs p) := by
  have reached : fs.IsReached (fs.above p) := isReached_of_checkDestination here check
  have above : FileSystem.textFault? p.parent.toText = none := by
    obtain ⟨-, above, -⟩ := FileSystem.checkDestination_eq_ok_iff.1 check
    obtain ⟨found, hparent⟩ := FileSystem.isDirectory?_eq_ok_true_iff.1 above
    exact (FileSystem.locate_eq_ok_iff.1 hparent).1
  have created : IsCreatable disturbance fs p → ∃ u, t.encode = .error u ∧
      (run disturbance fs p t).outcome = .error (.fault (.unencodable u)) ∧
      ∃ mark, LeavesTemporary fs ((run disturbance fs p t).final fs) p mark := by
    intro creatable
    cases hencode : t.encode with
    | ok content => exact absurd (Text.encode_eq_ok_iff.1 hencode).1 unencodable
    | error u => exact ⟨u, rfl, run_of_isCreatable proper reached creatable hencode⟩
  have unpassable : FileSystem.textFault? p.toText ≠ none →
      (∃ fault, (run disturbance fs p t).outcome = .error (.fault fault) ∧
        ∀ e, fault ≠ .system e) ∧ (run disturbance fs p t).final fs = fs :=
    run_of_textFault? proper above
  refine ⟨created, fun h passable => run_of_not_isCreatable proper reached passable h,
    unpassable, ?_, fun h => run_of_not_isCreatable proper reached h.1 h.2⟩
  rintro ⟨⟨e, houtcome⟩, hfinal⟩
  constructor
  · by_contra hfault
    obtain ⟨⟨fault, hrun, -⟩, -⟩ := unpassable hfault
    exact nomatch houtcome.symm.trans hrun
  · intro creatable
    obtain ⟨u, -, -, mark, left⟩ := created creatable
    exact left.ne hfinal

theorem not_isScalar_surrogate : ¬ Text.IsScalar [0xD800] := fun h =>
  absurd (h 0xD800 (List.mem_singleton_self _)) (by decide)

/-- A text of a lone surrogate leaves a temporary file beside the one that was there, and only the
refusal to create one keeps it from doing so. -/
theorem run_of_unencodable_crowded :
    crowded.here.IsProper ∧ crowded.IsReached crowded.here ∧
    crowded.checkDestination true (Path.parse "../d/out") = .ok () ∧
    ¬ Text.IsScalar [0xD800] ∧
    (∃ mark, LeavesTemporary crowded
      ((run undisturbed crowded (Path.parse "../d/out") [0xD800]).final crowded)
      (Path.parse "../d/out") mark) ∧
    LeavesNothing crowded (Path.parse "../d/out")
      (run (permitted false) crowded (Path.parse "../d/out") [0xD800]) := by
  have here : crowded.IsReached crowded.here := by
    unfold FileSystem.IsReached
    decide +kernel
  have check : crowded.checkDestination true (Path.parse "../d/out") = .ok () := by decide +kernel
  have passable : FileSystem.textFault? (Path.parse "../d/out").toText = none := by decide +kernel
  have room : HasRoom crowded (Path.parse "../d/out") := ⟨by decide +kernel, by decide +kernel⟩
  have free : HasFreeName crowded (Path.parse "../d/out") :=
    hasFreeName_of_length_lt (by decide) _
  obtain ⟨created, -⟩ :=
    run_of_unencodable isProper_crowded here check not_isScalar_surrogate undisturbed
  obtain ⟨-, refused, -⟩ :=
    run_of_unencodable isProper_crowded here check not_isScalar_surrogate (permitted false)
  obtain ⟨-, -, -, left⟩ := created ⟨passable, rfl, room, free⟩
  exact ⟨isProper_crowded, here, check, not_isScalar_surrogate, left,
    refused (fun h => nomatch h.2.1) passable⟩

/-- A text that cannot be encoded may leave something behind: in an empty file system, one file. -/
theorem not_leavesNothing_unencodable : ¬ ∀ (fs : FileSystem) (p : Path) (t : Text),
    fs.here.IsProper → fs.IsReached fs.here → fs.checkDestination true p = .ok () → ¬ t.IsScalar →
      LeavesNothing fs p (run undisturbed fs p t) := by
  intro tidy
  have left : ((run undisturbed ⟨[], []⟩ (Path.parse "out.dic") [0xD800]).final ⟨[], []⟩).entries =
      [([Text.ofString ".out.dic.aaaaaaaa.tmp"], .file [])] := by decide +kernel
  obtain ⟨-, same⟩ := tidy ⟨[], []⟩ (Path.parse "out.dic") [0xD800] nofun rfl (by decide +kernel)
    not_isScalar_surrogate
  rw [same] at left
  cases left

end Replacement

end GoLexicon
