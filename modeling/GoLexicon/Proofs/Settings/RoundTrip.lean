import GoLexicon.Proofs.Settings.Validation
/-!
# Settings that are written are loaded

Somebody sets some of what can be set, and puts what else they like into the object
(`Settings.Profile`). From each document of the object, with its members in any order, come the
settings that were meant, and the standard ones for the rest (`Settings.Profile.load_eq_settings`).
-/

namespace GoLexicon.Settings

/-- What is set for a run, in texts that can be written, and the further members of the object. -/
structure Profile where
  mode? : Option Mode
  binary? : Option Text
  extraWords? : Option (List Text)
  further : List (Text × Text)
  binary_ne_nil : ∀ t ∈ binary?, t ≠ []
  binary_scalar : ∀ t ∈ binary?, t.IsScalar
  extraWords_scalar : ∀ words ∈ extraWords?, ∀ t ∈ words, Text.IsScalar t
  further_scalar : ∀ m ∈ further, m.1.IsScalar ∧ m.2.IsScalar
  further_distinct : (further.map (·.1)).Nodup
  further_other : ∀ name ∈ further.map (·.1), name ∉ memberNames

namespace Profile

variable {p : Profile} {ms : List (Text × Json)}

/-- The settings that are meant. -/
def settings (p : Profile) : Settings where
  mode := p.mode?.getD standard.mode
  binary := p.binary?.getD standard.binary
  extraWords := p.extraWords?.getD standard.extraWords

/-- The values of the members that count, as far as they are set. -/
def chosen (p : Profile) : List (Text × Option Json) := [
  ("mode", p.mode?.map fun mode => .text mode.name), ("go_binary", p.binary?.map .text),
  ("extra_words", p.extraWords?.map fun words => .list (words.map .text))]

/-- The members of the object, in some order. -/
def members (p : Profile) : List (Text × Json) :=
  (p.chosen.filterMap fun m => m.2.map (m.1, ·)) ++ p.further.map fun m => (m.1, .text m.2)

theorem nodup_memberNames : memberNames.Nodup := by decide

theorem nodup_members (p : Profile) : (p.members.map (·.1)).Nodup := by
  have chosen : ((p.chosen.filterMap fun m => m.2.map (m.1, ·)).map (·.1)).Sublist memberNames :=
    List.map_fst_filterMap_sublist _
  have further : (p.further.map fun m => (m.1, Json.text m.2)).map (·.1) = p.further.map (·.1) := by
    simp
  rw [members, List.map_append, further]
  refine (nodup_memberNames.sublist chosen).append p.further_distinct ?_
  exact fun name hchosen hfurther => p.further_other name hfurther (chosen.subset hchosen)

/-- In whatever order the members come, those that count are found as they are set. -/
theorem member?_eq (h : ms.Perm p.members) {name : Text} (hname : name ∈ memberNames) :
    Json.member? ms name = (p.chosen.lookup name).join := by
  have other : (p.further.map fun m => (m.1, Json.text m.2)).lookup name = none := by
    refine List.lookup_eq_none_iff_not_mem.2 fun hfurther => ?_
    rw [List.map_map] at hfurther
    exact p.further_other name hfurther hname
  have distinct : (p.chosen.map (·.1)).Nodup := nodup_memberNames
  rw [Json.member?, List.lookup_eq_of_perm p.nodup_members h.symm, members, List.lookup_append,
    List.lookup_filterMap distinct, other, Option.or_none]

theorem ofName?_name (mode : Mode) : Mode.ofName? mode.name = some mode := by
  cases mode <;> decide

theorem isOf_settings (h : ms.Perm p.members) : p.settings.IsOf ms where
  mode := by
    have found : Json.member? ms "mode" = p.mode?.map fun mode => .text mode.name :=
      member?_eq h (by simp [memberNames])
    rw [found, settings]
    cases p.mode? with
    | none => exact .inl ⟨rfl, rfl⟩
    | some mode => exact .inr ⟨mode.name, rfl, ofName?_name mode⟩
  binary := by
    have found : Json.member? ms "go_binary" = p.binary?.map .text :=
      member?_eq h (by simp [memberNames])
    rw [found, settings]
    cases hbinary : p.binary? with
    | none => exact .inl ⟨rfl, rfl⟩
    | some binary => exact .inr ⟨rfl, p.binary_ne_nil binary hbinary⟩
  extraWords := by
    have found : Json.member? ms "extra_words" =
        p.extraWords?.map fun words => .list (words.map .text) :=
      member?_eq h (by simp [memberNames])
    rw [found, settings]
    cases p.extraWords? with
    | none => exact .inl ⟨rfl, rfl⟩
    | some words => exact .inr rfl

theorem isPlain_of_chosen {name : Text} {v : Json} (h : (name, some v) ∈ p.chosen) :
    name.IsScalar ∧ Json.IsPlain 1 v := by
  simp only [chosen, List.mem_cons, Prod.mk.injEq, List.not_mem_nil, or_false] at h
  obtain ⟨rfl, hv⟩ | ⟨rfl, hv⟩ | ⟨rfl, hv⟩ := h
  · obtain ⟨mode, -, rfl⟩ := Option.map_eq_some_iff.1 hv.symm
    refine ⟨Text.isScalar_ofString _, .text ?_⟩
    cases mode <;> exact Text.isScalar_ofString _
  · obtain ⟨binary, hbinary, rfl⟩ := Option.map_eq_some_iff.1 hv.symm
    exact ⟨Text.isScalar_ofString _, .text (p.binary_scalar binary hbinary)⟩
  · obtain ⟨words, hwords, rfl⟩ := Option.map_eq_some_iff.1 hv.symm
    refine ⟨Text.isScalar_ofString _, .list fun v hv => ?_⟩
    obtain ⟨t, ht, rfl⟩ := List.mem_map.1 hv
    exact .text (p.extraWords_scalar words hwords t ht)

theorem isPlain_of_mem {m : Text × Json} (hm : m ∈ p.members) :
    m.1.IsScalar ∧ Json.IsPlain 1 m.2 := by
  obtain hm | hm := List.mem_append.1 hm
  · obtain ⟨⟨name, v?⟩, hmem, h⟩ := List.mem_filterMap.1 hm
    obtain ⟨v, rfl, rfl⟩ := Option.map_eq_some_iff.1 h
    exact isPlain_of_chosen hmem
  · obtain ⟨t, ht, rfl⟩ := List.mem_map.1 hm
    exact (p.further_scalar t ht).imp_right .text

theorem isPlain_object (h : ms.Perm p.members) : Json.IsPlain 2 (.object ms) :=
  .object ((h.map _).nodup_iff.2 p.nodup_members)
    (fun _ hm => (isPlain_of_mem (h.mem_iff.1 hm)).1)
    fun _ hm => (isPlain_of_mem (h.mem_iff.1 hm)).2

/-- **What is set is loaded**, from each document of the object with its members in any order, so
from what any printer writes, whichever characters it leaves as they are. -/
theorem load_eq_settings (h : ms.Perm p.members) :
    (∀ (document : Text) (fs : FileSystem) (path : Path) (found : Location),
      Json.IsDocumentOf document (.object ms) →
      fs.locate path = .ok (found, some (.file document.octets)) →
      load fs fs.read path = .ok p.settings) ∧
    ∀ (plain : CodePoint → Bool) (fs : FileSystem) (path : Path) (found : Location),
      fs.locate path = .ok (found, some (.file (Json.writtenWith plain (.object ms)).octets)) →
      load fs fs.read path = .ok p.settings := by
  have loaded : ∀ (document : Text) (fs : FileSystem) (path : Path) (found : Location),
      Json.IsDocumentOf document (.object ms) →
      fs.locate path = .ok (found, some (.file document.octets)) →
      load fs fs.read path = .ok p.settings := by
    intro document fs path found hdocument hfile
    have scalar := (isPlain_object h).isScalar_of_isDocumentOf hdocument
    have value : Json.read Json.nestingLimit document = .ok (.object ms) :=
      Json.read_of_isDocumentOf (isPlain_object h) (by decide) hdocument
    rw [load_of_file hfile, Text.decodeReplacing_of_decode (Text.decode_eq_ok_iff.2 ⟨scalar, rfl⟩)]
    exact ofDocument_eq_ok_iff.2 ⟨ms, value, isOf_settings h⟩
  exact ⟨loaded, fun plain fs path found =>
    loaded _ fs path found (Json.isDocumentOf_writtenWith plain (isPlain_object h))⟩

/-- Another mode, two words with a quote and a character beyond the first plane, and a member that
does not count. -/
def colorful : Profile where
  mode? := some .verbatim
  binary? := none
  extraWords? := some ["\"main\"", [CodePoint.ofNat 0x1F600]]
  further := [("theme", "dark")]
  binary_ne_nil := nofun
  binary_scalar := nofun
  extraWords_scalar := by
    rintro _ ⟨⟩
    exact List.forall_mem_cons.2 ⟨Text.isScalar_ofString _,
      List.forall_mem_singleton.2 (List.forall_mem_singleton.2 rfl)⟩
  further_scalar :=
    List.forall_mem_singleton.2 ⟨Text.isScalar_ofString _, Text.isScalar_ofString _⟩
  further_distinct := by decide
  further_other := by decide

theorem load_eq_settings_colorful :
    colorful.members.reverse.Perm colorful.members ∧
    Json.IsDocumentOf (Json.writtenAscii (.object colorful.members.reverse))
      (.object colorful.members.reverse) ∧
    (placed (.file (Json.writtenAscii (.object colorful.members.reverse)).octets)).locate
        (Path.parse "settings") =
      .ok (["settings"],
        some (.file (Json.writtenAscii (.object colorful.members.reverse)).octets)) ∧
    load (placed (.file (Json.writtenAscii (.object colorful.members.reverse)).octets))
        (placed (.file (Json.writtenAscii (.object colorful.members.reverse)).octets)).read
        (Path.parse "settings") =
      .ok ⟨.verbatim, "go", ["\"main\"", [CodePoint.ofNat 0x1F600]]⟩ := by
  have order := List.reverse_perm colorful.members
  have document := Json.isDocumentOf_writtenWith (fun c => c.val < 0x7F) (isPlain_object order)
  have hfile := locate_placed (.file (Json.writtenAscii (.object colorful.members.reverse)).octets)
  exact ⟨order, document, hfile, (load_eq_settings order).1 _ _ _ _ document hfile⟩

end Profile

end GoLexicon.Settings
