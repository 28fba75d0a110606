import GoLexicon.Proofs.FileSystem.Replacement
import GoLexicon.Proofs.Text.Splitting
/-!
# Where paths lead

A path may begin anywhere and may have `..` in it. If it leads somewhere, then to the names that are
left when each `..` takes away the name in front of it (`FileSystem.locate_end`), and the directory
above that place is known by the names alone (`FileSystem.above`).

What a path shows is not changed by what happens at a place that it does not lead to, as long as no
directory comes or goes there (`FileSystem.look_of_agreeBut`).

What a path shows can be told for every path but those that are too long, or have a name that is
(`FileSystem.IsOverlong`).
-/

namespace GoLexicon

/-! ## Texts for the system -/

/-- A text that is handed to the system may hold this code point. -/
def CodePoint.IsPassable (c : CodePoint) : Prop :=
  c.val ≠ 0 ∧ (c.isSurrogate = true → FileSystem.standsForOctet c = true)

theorem FileSystem.textFault?_eq_none_iff {t : Text} :
    textFault? t = none ↔ ∀ c ∈ t, c.IsPassable := by
  have fits : ∀ c : CodePoint, (!c.isSurrogate || standsForOctet c) = true ↔
      (c.isSurrogate = true → standsForOctet c = true) := by
    intro c
    cases c.isSurrogate <;> simp
  simp only [textFault?]
  split
  · next h =>
    have hfits := List.dropWhile_eq_nil_iff.1 h
    simp only [fits] at hfits
    by_cases hnull : t.any (·.val = 0)
    · rw [if_pos hnull]
      obtain ⟨c, hc, h0⟩ := List.any_eq_true.1 hnull
      refine ⟨nofun, fun hpassable => absurd (of_decide_eq_true h0) (hpassable c hc).1⟩
    · rw [if_neg hnull]
      refine ⟨fun _ c hc => ⟨fun h0 => hnull ?_, hfits c hc⟩, fun _ => rfl⟩
      exact List.any_eq_true.2 ⟨c, hc, decide_eq_true h0⟩
  · next h =>
    refine ⟨nofun, fun hpassable => absurd (List.dropWhile_eq_nil_iff.2 ?_) h⟩
    intro c hc
    exact (fits c).2 (hpassable c hc).2

/-- The names of a location are names that can stand in a directory, and texts that can be handed to
the system. -/
def Location.IsProper (location : Location) : Prop :=
  ∀ name ∈ location, Path.IsName name ∧ name ≠ Path.up ∧ FileSystem.textFault? name = none

namespace Path

variable {p q : Path}

theorem text_slash : Text.ofString "/" = [CodePoint.ofChar '/'] := by decide

/-- What is in the text of a path is a slash, a dot, or in one of its names. -/
theorem mem_toText {c : CodePoint} (h : c ∈ p.toText) :
    c = CodePoint.ofChar '/' ∨ c = CodePoint.ofChar '.' ∨ ∃ name ∈ p.names, c ∈ name := by
  have anchored : ∀ a : Anchor, c ∈ a.toText → c = CodePoint.ofChar '/' := by
    intro a ha
    cases a with
    | here => exact absurd ha List.not_mem_nil
    | root => simpa [Anchor.toText, text_slash] using ha
    | doubleRoot =>
      have slashes : Text.ofString "//" = [CodePoint.ofChar '/', CodePoint.ofChar '/'] := by
        decide
      simpa [Anchor.toText, slashes] using ha
  unfold toText at h
  split at h
  · have dot : Text.ofString "." = [CodePoint.ofChar '.'] := by decide
    exact .inr (.inl (List.mem_singleton.1 (dot ▸ h)))
  · rcases List.mem_append.1 h with h | h
    · exact .inl (anchored _ h)
    · rw [text_slash] at h
      exact (Text.mem_joined h).imp_right .inr

/-- The text of a path holds its names. -/
theorem mem_toText_of_mem {name : Text} {c : CodePoint} (hname : name ∈ p.names) (hc : c ∈ name) :
    c ∈ p.toText := by
  unfold toText
  split
  · next hnil => exact absurd (hnil ▸ hname) List.not_mem_nil
  · exact List.mem_append_right _ (Text.mem_joined_of_mem hname hc)

/-- The text of a path can be handed to the system if its names can. -/
theorem textFault?_toText_iff : FileSystem.textFault? p.toText = none ↔
    ∀ name ∈ p.names, ∀ c ∈ name, c.IsPassable := by
  rw [FileSystem.textFault?_eq_none_iff]
  have slash : (CodePoint.ofChar '/').IsPassable := ⟨by decide, by decide⟩
  have dot : (CodePoint.ofChar '.').IsPassable := ⟨by decide, by decide⟩
  constructor
  · exact fun h name hname c hc => h c (mem_toText_of_mem hname hc)
  · intro h c hc
    obtain rfl | rfl | ⟨name, hname, hc⟩ := mem_toText hc
    · exact slash
    · exact dot
    · exact h name hname c hc

theorem settle_append (names rest : List Text) (h : up ∉ names) :
    settle (names ++ rest) = rest.foldl settleStep names := by
  have first : names.foldl settleStep [] = names := settle_eq_self h
  rw [settle, List.foldl_append, first]

theorem namesAmong_eq_self {names : List Text} (h : ∀ name ∈ names, IsName name) :
    namesAmong names = names := by
  apply List.filter_eq_self.2
  intro name hname
  simpa using h name hname

/-- Names with a slash between them do not begin with one. -/
theorem takeWhile_slash_joined {names : List Text} (h : ∀ name ∈ names, IsName name) :
    (Text.joined [CodePoint.ofChar '/'] names).takeWhile (· = CodePoint.ofChar '/') = [] := by
  cases names with
  | nil => simp [Text.joined]
  | cons first names =>
    have hfirst := h first (by simp)
    cases first with
    | nil => exact absurd rfl hfirst.1
    | cons c first =>
      have hc : c ≠ CodePoint.ofChar '/' := (List.ne_of_not_mem_cons hfirst.2.2).symm
      cases names with
      | nil =>
        rw [Text.joined, List.intercalate_singleton]
        exact List.takeWhile_cons_of_neg (by simpa using hc)
      | cons second names =>
        rw [Text.joined_cons_cons, List.cons_append]
        exact List.takeWhile_cons_of_neg (by simpa using hc)

theorem not_isName_nil : ¬ IsName [] := fun h => h.1 rfl

theorem namesAmong_splitAt_joined {names : List Text} (h : ∀ name ∈ names, IsName name) :
    namesAmong (Text.splitAt '/' (Text.joined [CodePoint.ofChar '/'] names)) = names := by
  by_cases hnames : names = []
  · subst hnames
    simp [Text.joined, Text.splitAt, namesAmong, not_isName_nil]
  · rw [Text.splitAt_joined hnames fun name hname => (h name hname).2.2]
    exact namesAmong_eq_self h

/-- A slash in front changes none of the names. -/
theorem namesAmong_splitAt_slash (t : Text) :
    namesAmong (Text.splitAt '/' (CodePoint.ofChar '/' :: t)) =
      namesAmong (Text.splitAt '/' t) := by
  rw [Text.splitAt, if_pos rfl, namesAmong,
    List.filter_cons_of_neg (by simpa using not_isName_nil), namesAmong]

/-- Names with a slash in front and between them are the names of a path from the root. -/
theorem parse_slash_joined {names : List Text} (h : ∀ name ∈ names, IsName name) :
    (parse ("/" ++ Text.joined "/" names)).anchor = .root ∧
      (parse ("/" ++ Text.joined "/" names)).names = names := by
  rw [text_slash, List.singleton_append]
  constructor
  · change anchorOf _ = .root
    rw [anchorOf, List.takeWhile_cons_of_pos (by simp), takeWhile_slash_joined h]
    rfl
  · exact (namesAmong_splitAt_slash _).trans (namesAmong_splitAt_joined h)

/-- The text of a path writes it. -/
theorem parse_toText (p : Path) : parse p.toText = p := by
  have dot : parse (Text.ofString ".") = ⟨.here, [], by simp⟩ := by decide
  obtain ⟨anchor, names, isName⟩ := p
  have starts := takeWhile_slash_joined isName
  have names_eq := namesAmong_splitAt_joined isName
  have written : ∀ t : Text, anchorOf t = anchor → namesAmong (Text.splitAt '/' t) = names →
      parse t = ⟨anchor, names, isName⟩ := by
    rintro t rfl rfl
    rfl
  cases anchor with
  | here =>
    by_cases hnames : names = []
    · subst hnames
      exact dot
    · have shown : toText ⟨.here, names, isName⟩ = Text.joined [CodePoint.ofChar '/'] names := by
        unfold toText
        split
        · next h => exact absurd h hnames
        · rw [text_slash]
          rfl
      rw [shown]
      exact written _ (by rw [anchorOf, starts]; rfl) names_eq
  | root =>
    have shown : toText ⟨.root, names, isName⟩ =
        CodePoint.ofChar '/' :: Text.joined [CodePoint.ofChar '/'] names := by
      rw [← text_slash]
      rfl
    rw [shown]
    refine written _ ?_ ((namesAmong_splitAt_slash _).trans names_eq)
    rw [anchorOf, List.takeWhile_cons_of_pos (by simp), starts]
    rfl
  | doubleRoot =>
    have shown : toText ⟨.doubleRoot, names, isName⟩ =
        CodePoint.ofChar '/' :: CodePoint.ofChar '/' ::
          Text.joined [CodePoint.ofChar '/'] names := by
      rw [← text_slash]
      rfl
    rw [shown]
    refine written _ ?_
      ((namesAmong_splitAt_slash _).trans ((namesAmong_splitAt_slash _).trans names_eq))
    rw [anchorOf, List.takeWhile_cons_of_pos (by simp), List.takeWhile_cons_of_pos (by simp), starts]
    rfl

theorem toText_ne_nil (p : Path) : p.toText ≠ [] := by
  intro h
  have hp : parse [] = p := h ▸ parse_toText p
  rw [← hp] at h
  exact absurd h (by decide)

end Path

namespace FileSystem

variable {fs fs' : FileSystem} {p : Path} {location found : Location} {e : Option Entry}

@[simp] theorem here_put (fs : FileSystem) (location : Location) (entry : Entry) :
    (fs.put location entry).here = fs.here := by
  unfold put
  simp only
  split <;> rfl

theorem start_eq (h : fs'.here = fs.here) (p : Path) : fs'.start p = fs.start p := by
  rw [start, start, h]

theorem start_of_ne_here (h : p.anchor ≠ .here) : fs.start p = [] := by
  unfold start
  split
  · next hhere => exact absurd hhere h
  · rfl

/-- The path of the current directory leads to it. -/
theorem herePath_eq (proper : fs.here.IsProper) :
    fs.herePath.anchor = .root ∧ fs.herePath.names = fs.here :=
  Path.parse_slash_joined fun name hname => (proper name hname).1

/-! ## The end of a walk -/

/-- A walk ends at the names that are left when each `..` takes away the name in front of it. -/
theorem walk_end {names : List Text} (h : fs.walk location names = .ok (found, e)) :
    found = names.foldl Path.settleStep location ∧ e = fs.entry? found := by
  induction names generalizing location with
  | nil =>
    obtain ⟨rfl, rfl⟩ := Prod.mk.inj (Except.ok.inj h)
    exact ⟨rfl, rfl⟩
  | cons name rest ih =>
    rw [walk] at h
    split at h
    · cases h
    · cases h
    · split at h
      · next hup =>
        rw [List.foldl_cons, Path.settleStep, if_pos hup]
        exact ih h
      · next hup =>
        split at h
        · cases h
        · rw [List.foldl_cons, Path.settleStep, if_neg hup]
          exact ih h

/-- A path leads somewhere exactly when its text can be handed to the system, is not too long, and
the walk along its names comes to its end. -/
theorem locate_eq_ok_iff : fs.locate p = .ok (found, e) ↔ textFault? p.toText = none ∧
    octetCount p.toText < pathLimit ∧ fs.walk (fs.start p) p.names = .ok (found, e) := by
  unfold locate
  split
  · next fault hfault => simp [hfault]
  · next hfault =>
    split
    · next hlong => simp [Nat.not_lt.2 hlong]
    · next hshort =>
      cases fs.walk (fs.start p) p.names <;> simp [hfault, Nat.lt_of_not_le hshort]

theorem locate_end (h : fs.locate p = .ok (found, e)) :
    found = p.names.foldl Path.settleStep (fs.start p) ∧ e = fs.entry? found :=
  walk_end (locate_eq_ok_iff.1 h).2.2

/-- The location of the directory above where a path leads. -/
def above (fs : FileSystem) (p : Path) : Location :=
  p.names.dropLast.foldl Path.settleStep (fs.start p)

/-- A path leads to a name in the directory above, unless its last name is none of these. -/
theorem locate_end_cases (h : fs.locate p = .ok (found, e)) :
    found = fs.above p ∨ found = (fs.above p).dropLast ∨ found = fs.above p ++ [p.lastName] := by
  obtain ⟨rfl, -⟩ := locate_end h
  rcases List.eq_nil_or_concat p.names with hnil | ⟨names, name, hnames⟩
  · simp [above, hnil]
  · rw [List.concat_eq_append] at hnames
    have habove : fs.above p = names.foldl Path.settleStep (fs.start p) := by
      rw [above, hnames, List.dropLast_concat]
    have hlast : p.lastName = name := by simp [Path.lastName, hnames]
    rw [hnames, List.foldl_append, List.foldl_cons, List.foldl_nil, ← habove, hlast,
      Path.settleStep]
    split
    · exact .inr (.inl rfl)
    · exact .inr (.inr rfl)

/-! ## What happens at another place -/

/-- What a walk shows: what stands at its end, and nothing if it comes to none; but a name that is
too long is a refusal. -/
def sight : Except SystemError.Reason (Location × Option Entry) → Option (Option Entry)
  | .ok (_, e) => some e
  | .error .nameTooLong => none
  | .error _ => some none

section frame

variable (agree : fs.AgreeBut fs' location) (before : fs.entry? location ≠ some .directory)
include agree before

theorem walk_of_agreeBut {start : Location} {names : List Text}
    (h : fs.walk start names = .ok (found, e)) :
    fs'.walk start names = .ok (found, fs'.entry? found) := by
  induction names generalizing start with
  | nil =>
    obtain ⟨rfl, -⟩ := Prod.mk.inj (Except.ok.inj h)
    rfl
  | cons name rest ih =>
    rw [walk] at h ⊢
    split at h
    · cases h
    · cases h
    · next hstart =>
      -- the walk passes directories only, so it does not pass the place that has changed
      have hne : start ≠ location := fun heq => before (heq ▸ hstart)
      rw [agree start hne, hstart]
      simp only
      split at h
      · next hup => rw [if_pos hup, ih h]
      · next hup =>
        rw [if_neg hup]
        split at h
        · cases h
        · next hshort => rw [if_neg hshort, ih h]

theorem sight_walk_of_agreeBut (after : fs'.entry? location ≠ some .directory)
    {start : Location} {names : List Text}
    (aside : ∀ e, fs.walk start names ≠ .ok (location, e)) :
    sight (fs'.walk start names) = sight (fs.walk start names) := by
  induction names generalizing start with
  | nil =>
    have hne : start ≠ location := fun heq => aside (fs.entry? start) (by rw [walk, heq])
    rw [walk, walk, agree start hne]
  | cons name rest ih =>
    by_cases hstart : start = location
    · -- no directory stands here, before or after, so the walk comes to no end
      subst hstart
      have blocked : ∀ f : FileSystem, f.entry? start ≠ some .directory →
          sight (f.walk start (name :: rest)) = some none := by
        intro f hf
        rw [walk]
        split
        · rfl
        · rfl
        · next hd => exact absurd hd hf
      rw [blocked fs before, blocked fs' after]
    · rw [walk] at aside
      rw [walk, walk, agree start hstart]
      cases hentry : fs.entry? start with
      | none => rfl
      | some entry =>
        rw [hentry] at aside
        cases entry with
        | file content => rfl
        | directory =>
          simp only at aside ⊢
          by_cases hup : name = Path.up
          · rw [if_pos hup] at aside
            rw [if_pos hup, if_pos hup]
            exact ih aside
          · rw [if_neg hup] at aside
            rw [if_neg hup, if_neg hup]
            by_cases hlong : nameLimit < octetCount name
            · rw [if_pos hlong, if_pos hlong]
            · rw [if_neg hlong] at aside
              rw [if_neg hlong, if_neg hlong]
              exact ih aside

theorem locate_of_agreeBut (here : fs'.here = fs.here) (h : fs.locate p = .ok (found, e)) :
    fs'.locate p = .ok (found, fs'.entry? found) := by
  obtain ⟨hfault, hshort, hwalk⟩ := locate_eq_ok_iff.1 h
  rw [locate_eq_ok_iff, start_eq here]
  exact ⟨hfault, hshort, walk_of_agreeBut agree before hwalk⟩

theorem look_of_agreeBut (after : fs'.entry? location ≠ some .directory)
    (here : fs'.here = fs.here) (aside : ∀ e, fs.locate p ≠ .ok (location, e)) :
    fs'.look p = fs.look p := by
  cases hfault : textFault? p.toText with
  | some fault => simp only [look, locate, hfault]
  | none =>
    by_cases hlong : pathLimit ≤ octetCount p.toText
    · simp only [look, locate, hfault, if_pos hlong]
    · have hshort : octetCount p.toText < pathLimit := Nat.lt_of_not_le hlong
      have hsight : sight (fs'.walk (fs.start p) p.names) = sight (fs.walk (fs.start p) p.names) :=
        sight_walk_of_agreeBut agree before after fun e hwalk =>
          aside e (locate_eq_ok_iff.2 ⟨hfault, hshort, hwalk⟩)
      simp only [look, locate, hfault, if_neg hlong, start_eq here]
      revert hsight
      generalize fs'.walk (fs.start p) p.names = x'
      generalize fs.walk (fs.start p) p.names = x
      intro hsight
      rcases x with reason | ⟨end₁, e₁⟩ <;> rcases x' with reason' | ⟨end₂, e₂⟩
      · cases reason <;> cases reason' <;> simp_all [sight]
      · cases reason <;> simp_all [sight]
      · cases reason' <;> simp_all [sight]
      · simp_all [sight]

end frame

/-! ## Paths that are too long -/

theorem walk_append {names rest : List Text} (h : fs.walk location names = .ok (found, e)) :
    fs.walk location (names ++ rest) = fs.walk found rest := by
  induction names generalizing location with
  | nil =>
    obtain ⟨rfl, -⟩ := Prod.mk.inj (Except.ok.inj h)
    rfl
  | cons name names ih =>
    rw [walk] at h
    rw [List.cons_append, walk]
    split at h
    · cases h
    · cases h
    · split at h
      · next hup =>
        rw [if_pos hup]
        exact ih h
      · next hup =>
        split at h
        · cases h
        · next hshort =>
          rw [if_neg hup, if_neg hshort]
          exact ih h

/-- A walk is refused for a length where it comes to a name that is too long, through
directories. -/
theorem walk_eq_nameTooLong_iff {names : List Text} :
    fs.walk location names = .error .nameTooLong ↔ ∃ before name after place,
      names = before ++ name :: after ∧ fs.walk location before = .ok (place, some .directory) ∧
        name ≠ Path.up ∧ nameLimit < octetCount name := by
  constructor
  · intro h
    induction names generalizing location with
    | nil => cases h
    | cons name rest ih =>
      rw [walk] at h
      split at h
      · cases h
      · cases h
      · next hentry =>
        split at h
        · next hup =>
          obtain ⟨before, long, after, place, rfl, hwalk, hlong⟩ := ih h
          refine ⟨name :: before, long, after, place, rfl, ?_, hlong⟩
          rw [walk, hentry]
          simpa only [if_pos hup] using hwalk
        · next hup =>
          split at h
          · next hlong =>
            exact ⟨[], name, rest, location, rfl, by rw [walk, hentry], hup, hlong⟩
          · next hshort =>
            obtain ⟨before, long, after, place, rfl, hwalk, hlong⟩ := ih h
            refine ⟨name :: before, long, after, place, rfl, ?_, hlong⟩
            rw [walk, hentry]
            simpa only [if_neg hup, if_neg hshort] using hwalk
  · rintro ⟨before, name, after, place, rfl, hwalk, hup, hlong⟩
    rw [walk_append hwalk, walk, ← (walk_end hwalk).2]
    simp only [if_neg hup, if_pos hlong]

/-- The system refuses a path for the length of the path, or of a name that it comes to. -/
def IsOverlong (fs : FileSystem) (p : Path) : Prop :=
  fs.locate p = .error (.system ⟨.nameTooLong, p.toText, none⟩)

/-- What keeps a text from being handed to the system is no refusal of the system. -/
theorem textFault?_ne_system {t : Text} {error : SystemError} :
    textFault? t ≠ some (.system error) := by
  simp only [textFault?]
  split
  · split <;> exact nofun
  · exact nofun

theorem eq_of_locate_system {error : SystemError} (h : fs.locate p = .error (.system error)) :
    error = ⟨error.reason, p.toText, none⟩ := by
  unfold locate at h
  split at h
  · next hfault => exact absurd (Except.error.inj h ▸ hfault) textFault?_ne_system
  · split at h
    · cases h
      rfl
    · split at h <;> cases h
      rfl

theorem isOverlong_iff : fs.IsOverlong p ↔ textFault? p.toText = none ∧
    (pathLimit ≤ octetCount p.toText ∨
      fs.walk (fs.start p) p.names = .error .nameTooLong) := by
  unfold IsOverlong locate
  split
  · next fault hfault =>
    exact ⟨fun h => absurd (Except.error.inj h ▸ hfault) textFault?_ne_system,
      fun h => nomatch hfault.symm.trans h.1⟩
  · next hfault =>
    split
    · next hlong => simp [hfault, hlong]
    · next hshort =>
      cases fs.walk (fs.start p) p.names <;> simp [hfault, hshort]

/-- Where neither the path nor one of its names is too long, no length is refused. -/
theorem not_isOverlong (hpath : octetCount p.toText < pathLimit)
    (hnames : ∀ name ∈ p.names, octetCount name ≤ nameLimit) : ¬ fs.IsOverlong p := by
  rw [isOverlong_iff, walk_eq_nameTooLong_iff]
  rintro ⟨-, hlong | ⟨before, name, after, -, hmem, -, -, hlong⟩⟩
  · exact absurd hpath (Nat.not_lt.2 hlong)
  · exact absurd (hnames name (by simp [hmem])) (Nat.not_le.2 hlong)

/-- What stands where a path leads can be seen unless a length is refused; where the path leads
nowhere, nothing stands. -/
theorem look_eq_some_iff {entry : Entry} :
    fs.look p = .ok (some entry) ↔ ∃ found, fs.locate p = .ok (found, some entry) := by
  unfold look
  split
  · next h => simp [h]
  · next h => simp [h]
  · next h => simp [h]

theorem look_eq_error_iff {fault : Fault} : fs.look p = .error fault ↔
    fs.IsOverlong p ∧ fault = .system ⟨.nameTooLong, p.toText, none⟩ := by
  unfold look IsOverlong
  split
  · next h => simp [h]
  · next path target h =>
    have here := eq_of_locate_system h
    rw [h, here]
    simp [eq_comm]
  · next fault hfault h =>
    refine ⟨nofun, fun ⟨hlong, _⟩ => ?_⟩
    exact absurd (Except.error.inj (h.symm.trans hlong)) (hfault _ _)

end FileSystem

end GoLexicon
