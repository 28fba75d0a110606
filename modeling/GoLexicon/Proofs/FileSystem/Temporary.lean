import GoLexicon.Proofs.FileSystem.Locations
/-!
# Where a temporary file is created

The temporary file for a destination is created in the directory above, under a name of its own
(`Replacement.of_freshLocation`), so the destination never leads to it
(`Replacement.locate_ne_temporary`), wherever its path begins and whatever `..` it has.

That it cannot be created is a refusal of the system, unless the text of the destination cannot be
handed to the system at all (`Replacement.textFault?_ne_none_of_freshLocation`).
-/

namespace GoLexicon

namespace Replacement

variable {fs : FileSystem} {p : Path} {mark : Text} {location : Location} {e : Option Entry}

/-! ## Its location -/

theorem above_eq_settle (proper : fs.here.IsProper) (p : Path) :
    fs.above p = Path.settle (fs.herePath.join p.parent).names := by
  have noUp : Path.up ∉ fs.here := fun h => (proper _ h).2.1 rfl
  by_cases hanchor : p.anchor = .here
  · have hstart : fs.start p = fs.here := by simp only [FileSystem.start, hanchor]
    have hjoin : (fs.herePath.join p.parent).names = fs.here ++ p.names.dropLast := by
      rw [(Path.join_of_here (q := p.parent) hanchor).2, (FileSystem.herePath_eq proper).2]
      rfl
    rw [hjoin, Path.settle_append _ _ noUp, FileSystem.above, hstart]
  · rw [Path.join_of_ne_here (q := p.parent) hanchor, FileSystem.above,
      FileSystem.start_of_ne_here hanchor]
    rfl

theorem up_not_mem_above (proper : fs.here.IsProper) : Path.up ∉ fs.above p := by
  rw [above_eq_settle proper]
  exact Path.up_not_mem_settle _

/-- The path of the temporary file begins at the root, and its names are those of the directory
above the destination and one more. -/
theorem temporaryPath_eq (proper : fs.here.IsProper) (hmark : CodePoint.ofChar '/' ∉ mark) :
    (temporaryPath fs p mark).anchor ≠ .here ∧
      (temporaryPath fs p mark).names = fs.above p ++ [temporaryName p mark] := by
  obtain ⟨hanchor, hnames⟩ :=
    Path.parse_of_isName (isName_temporaryName (slash_not_mem_lastName p) hmark)
  obtain ⟨hanchor', hnames'⟩ := Path.join_of_here (p := Path.absolute fs.herePath p.parent) hanchor
  refine ⟨?_, ?_⟩
  · change ((Path.absolute fs.herePath p.parent).join (Path.parse _)).anchor ≠ _
    rw [hanchor']
    change (fs.herePath.join p.parent).anchor ≠ .here
    by_cases h : p.anchor = .here
    · rw [(Path.join_of_here (q := p.parent) h).1, (FileSystem.herePath_eq proper).1]
      simp
    · rwa [Path.join_of_ne_here (q := p.parent) h]
  · change ((Path.absolute fs.herePath p.parent).join (Path.parse _)).names = _
    rw [hnames', hnames, above_eq_settle proper]
    rfl

theorem temporaryName_ne_up (p : Path) (mark : Text) : temporaryName p mark ≠ Path.up := by
  intro h
  have hlength := length_temporaryName p mark
  have hup : Path.up.length = 2 := by decide
  rw [h, hup] at hlength
  omega

theorem locate_temporaryPath (proper : fs.here.IsProper) (hmark : CodePoint.ofChar '/' ∉ mark)
    (h : fs.locate (temporaryPath fs p mark) = .ok (location, e)) :
    location = fs.above p ++ [temporaryName p mark] ∧ e = fs.entry? location := by
  obtain ⟨hanchor, hnames⟩ := temporaryPath_eq (p := p) proper hmark
  have hstart : fs.start (temporaryPath fs p mark) = [] := FileSystem.start_of_ne_here hanchor
  obtain ⟨hlocation, he⟩ := FileSystem.locate_end h
  have noUp : Path.up ∉ fs.above p ++ [temporaryName p mark] := by
    intro hup
    rcases List.mem_append.1 hup with hup | hup
    · exact up_not_mem_above proper hup
    · exact temporaryName_ne_up p mark (List.mem_singleton.1 hup).symm
  rw [hstart, hnames] at hlocation
  exact ⟨hlocation.trans (Path.settle_eq_self noUp), he⟩

/-- The temporary file is created where nothing stands, in the directory above its destination. -/
theorem of_freshLocation (proper : fs.here.IsProper) {marks : List Text}
    (hmarks : ∀ mark ∈ marks, CodePoint.ofChar '/' ∉ mark) {path : Path}
    (h : freshLocation fs p marks = .ok (path, location)) :
    fs.entry? location = none ∧ ∃ mark, location = fs.above p ++ [temporaryName p mark] := by
  obtain ⟨mark, hmark, rfl, hfound⟩ := locate_of_freshLocation h
  obtain ⟨hlocation, absent⟩ := locate_temporaryPath proper (hmarks mark hmark) hfound
  exact ⟨absent.symm, mark, hlocation⟩

/-- The destination never leads to its temporary file: that one has a longer name. -/
theorem locate_ne_temporary (p : Path) (mark : Text) (e : Option Entry) :
    fs.locate p ≠ .ok (fs.above p ++ [temporaryName p mark], e) := by
  intro h
  rcases FileSystem.locate_end_cases h with h | h | h
  · simp at h
  · have hlength := congrArg List.length h
    simp only [List.length_append, List.length_dropLast, List.length_singleton] at hlength
    omega
  · have hname : temporaryName p mark = p.lastName := by
      simpa using List.append_cancel_left h
    have hlength := length_temporaryName p mark
    rw [hname] at hlength
    omega

/-! ## Its text -/

theorem isPassable_of_mem_temporaryName (hp : ∀ name ∈ p.names, ∀ c ∈ name, c.IsPassable)
    (hmark : ∀ c ∈ mark, c.IsPassable) : ∀ c ∈ temporaryName p mark, c.IsPassable := by
  have dot : ∀ c ∈ Text.ofString ".", c.IsPassable := by
    apply FileSystem.textFault?_eq_none_iff.1
    decide
  have ending : ∀ c ∈ Text.ofString ".tmp", c.IsPassable := by
    apply FileSystem.textFault?_eq_none_iff.1
    decide
  have last : ∀ c ∈ p.lastName, c.IsPassable := by
    intro c hc
    rw [Path.lastName, List.getLastD_eq_getLast?] at hc
    cases hl : p.names.getLast? with
    | none => simp [hl] at hc
    | some name =>
      rw [hl, Option.getD_some] at hc
      exact hp name (List.mem_of_getLast? hl) c hc
  intro c hc
  simp only [temporaryName, List.mem_append] at hc
  rcases hc with (((hc | hc) | hc) | hc) | hc
  · exact dot c hc
  · exact last c hc
  · exact dot c hc
  · exact hmark c hc
  · exact ending c hc

theorem isPassable_of_mem_above (proper : fs.here.IsProper)
    (hp : ∀ name ∈ p.names, ∀ c ∈ name, c.IsPassable) {name : Text} (hname : name ∈ fs.above p) :
    ∀ c ∈ name, c.IsPassable := by
  have here : ∀ name ∈ fs.here, ∀ c ∈ name, c.IsPassable := fun name hname =>
    FileSystem.textFault?_eq_none_iff.1 (proper name hname).2.2
  have own : ∀ name ∈ p.names.dropLast, ∀ c ∈ name, c.IsPassable := fun name hname =>
    hp name (List.dropLast_subset _ hname)
  rw [above_eq_settle proper] at hname
  have hjoined := Path.mem_of_mem_settle hname
  by_cases hanchor : p.anchor = .here
  · rw [(Path.join_of_here (q := p.parent) hanchor).2, (FileSystem.herePath_eq proper).2] at hjoined
    rcases List.mem_append.1 hjoined with h | h
    · exact here name h
    · exact own name h
  · rw [Path.join_of_ne_here (q := p.parent) hanchor] at hjoined
    exact own name hjoined

theorem textFault?_temporaryPath (proper : fs.here.IsProper)
    (hp : FileSystem.textFault? p.toText = none) (hslash : CodePoint.ofChar '/' ∉ mark)
    (hmark : ∀ c ∈ mark, c.IsPassable) :
    FileSystem.textFault? (temporaryPath fs p mark).toText = none := by
  rw [Path.textFault?_toText_iff] at hp ⊢
  intro name hname
  rw [(temporaryPath_eq proper hslash).2] at hname
  rcases List.mem_append.1 hname with hname | hname
  · exact isPassable_of_mem_above proper hp hname
  · rw [List.mem_singleton.1 hname]
    exact isPassable_of_mem_temporaryName hp hmark

theorem isPassable_of_mem_markOf {n : Nat} {c : CodePoint} (h : c ∈ markOf n) : c.IsPassable := by
  have drawn : FileSystem.textFault? (CodePoint.ofChar 'a' :: markCharacters) = none := by
    decide
  exact FileSystem.textFault?_eq_none_iff.1 drawn c (mem_markOf h)

/-- No place for the temporary file is found because the system refuses, or because a text cannot
be handed to the system. -/
theorem textFault?_of_freshLocation {marks : List Text} {fault : Fault}
    (h : freshLocation fs p marks = .error fault) (hsystem : ∀ e, fault ≠ .system e) :
    ∃ mark ∈ marks, FileSystem.textFault? (temporaryPath fs p mark).toText ≠ none := by
  induction marks with
  | nil =>
    rw [freshLocation] at h
    cases h
    exact absurd rfl (hsystem _)
  | cons mark marks ih =>
    rw [freshLocation] at h
    split at h
    · next fault' hlocate =>
      obtain rfl := Except.error.inj h
      refine ⟨mark, by simp, fun hnone => ?_⟩
      -- if the text can be handed over, it is the system that refuses
      simp only [FileSystem.locate, hnone] at hlocate
      split at hlocate
      · cases hlocate
        exact hsystem _ rfl
      · split at hlocate
        · cases hlocate
        · cases hlocate
          exact hsystem _ rfl
    · cases h
    · obtain ⟨mark', hmark', hfault⟩ := ih h
      exact ⟨mark', by simp [hmark'], hfault⟩

/-- A destination whose text can be handed to the system has temporary files of which the same is
true. -/
theorem textFault?_ne_none_of_freshLocation (proper : fs.here.IsProper) {count : Nat}
    {fault : Fault} (h : freshLocation fs p ((List.range count).map markOf) = .error fault)
    (hsystem : ∀ e, fault ≠ .system e) : FileSystem.textFault? p.toText ≠ none := by
  obtain ⟨mark, hmark, hfault⟩ := textFault?_of_freshLocation h hsystem
  obtain ⟨n, -, rfl⟩ := List.mem_map.1 hmark
  intro hp
  exact hfault (textFault?_temporaryPath proper hp (slash_not_mem_markOf n) fun _ =>
    isPassable_of_mem_markOf)

end Replacement

end GoLexicon
