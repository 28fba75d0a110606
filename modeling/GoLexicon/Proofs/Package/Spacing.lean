import GoLexicon.Proofs.Package.Descriptions
import Mathlib.Data.List.Induction
/-!
# What stands between the entries of a listing

The entries of a listing are kept apart by blanks: between neighbours there is a run of blanks with
at least one line end among them, and more blanks may stand around it all (`Text.IsSpaced`). No such
run, however long and of whatever blanks, splits an entry, joins two of them, or makes one up; and
every text is made in this way from the entries that are read from it
(`Toolchain.listed_eq_iff`).

So a toolchain that prints a text lists exactly the entries of which the text is made
(`Toolchain.listStandard_eq_ok_iff_isSpaced`).
-/

namespace GoLexicon

namespace Text

variable {c : CodePoint} {t p w : Text} {ps : List Text}

/-- Nothing but blanks. -/
def IsBlank (w : Text) : Prop := ∀ c ∈ w, c.isBlank = true

/-- A text is made of some entries, in order: each of them stands in a row, with blanks behind it,
and all but the last row hold a line end among these. There may be more blanks in front. -/
def IsSpaced (ps : List Text) (t : Text) : Prop :=
  ∃ (front : Text) (rows : List (Text × Text)),
    ps = rows.map (·.1) ∧ t = front ++ rows.flatMap (fun row => row.1 ++ row.2) ∧
    IsBlank front ∧ (∀ row ∈ rows, IsEntry row.1 ∧ IsBlank row.2) ∧
    ∀ row ∈ rows.dropLast, ∃ c ∈ row.2, c.endsLine = true

/-! ## Rows are lines -/

/-- Blanks in front of a listing do not count. -/
theorem IsListing.blanks (h : IsListing ps t) (hw : IsBlank w) : IsListing ps (w ++ t) := by
  induction w with
  | nil => exact h
  | cons c w ih =>
    obtain ⟨hc, hw⟩ := List.forall_mem_cons.1 hw
    exact .blank hc (ih hw)

/-- Blanks are padding up to the first line end among them, if there is one. -/
theorem IsBlank.isPadding_or_split (hw : IsBlank w) :
    IsPadding w ∨ ∃ v c u, w = v ++ c :: u ∧ IsPadding v ∧ c.endsLine = true ∧ IsBlank u := by
  cases hfind : w.find? (·.endsLine) with
  | none =>
    refine .inl fun c hc => ⟨hw c hc, ?_⟩
    simpa using List.find?_eq_none.1 hfind c hc
  | some c =>
    obtain ⟨hends, v, u, rfl, hv⟩ := List.find?_eq_some_iff_append.1 hfind
    refine .inr ⟨v, c, u, rfl, fun d hd => ⟨hw d (by simp [hd]), ?_⟩, hends, ?_⟩
    · simpa using hv d hd
    · exact fun d hd => hw d (by simp [hd])

theorem isListing_rows {rows : List (Text × Text)}
    (entries : ∀ row ∈ rows, IsEntry row.1 ∧ IsBlank row.2)
    (apart : ∀ row ∈ rows.dropLast, ∃ c ∈ row.2, c.endsLine = true) :
    IsListing (rows.map (·.1)) (rows.flatMap fun row => row.1 ++ row.2) := by
  induction rows with
  | nil => exact .nil
  | cons row rows ih =>
    obtain ⟨⟨hp, hgap⟩, entries⟩ := List.forall_mem_cons.1 entries
    have apart' : ∀ row ∈ rows.dropLast, ∃ c ∈ row.2, c.endsLine = true := by
      intro other hother
      apply apart
      cases rows with
      | nil => exact absurd hother List.not_mem_nil
      | cons next rows => exact List.mem_cons_of_mem _ hother
    rw [List.map_cons, List.flatMap_cons]
    obtain hpadding | ⟨v, c, u, hsplit, hv, hc, hu⟩ := hgap.isPadding_or_split
    · -- a row with no line end is the last one
      cases rows with
      | nil =>
        rw [List.map_nil, List.flatMap_nil, List.append_nil]
        exact .last hp hpadding
      | cons next rows =>
        obtain ⟨c, hc, hends⟩ := apart row List.mem_cons_self
        rw [(hpadding c hc).2] at hends
        cases hends
    · have line := IsListing.line hp hv hc ((ih entries apart').blanks hu)
      rw [hsplit]
      simpa using line

theorem IsSpaced.isEntry (h : IsSpaced ps t) : ∀ p ∈ ps, p.IsEntry := by
  obtain ⟨front, rows, rfl, -, -, entries, -⟩ := h
  intro p hp
  obtain ⟨row, hrow, rfl⟩ := List.mem_map.1 hp
  exact (entries row hrow).1

theorem IsSpaced.isListing (h : IsSpaced ps t) : IsListing ps t := by
  obtain ⟨front, rows, rfl, rfl, hfront, entries, apart⟩ := h
  exact (isListing_rows entries apart).blanks hfront

/-! ## Lines are rows -/

theorem IsListing.isSpaced (h : IsListing ps t) : IsSpaced ps t := by
  induction h with
  | nil => exact ⟨[], [], rfl, rfl, nofun, nofun, nofun⟩
  | blank hc _ ih =>
    obtain ⟨front, rows, rfl, rfl, hfront, entries, apart⟩ := ih
    exact ⟨_ :: front, rows, rfl, rfl, List.forall_mem_cons.2 ⟨hc, hfront⟩, entries, apart⟩
  | @line c p w _ _ hp hw hc _ ih =>
    obtain ⟨front, rows, rfl, rfl, hfront, entries, apart⟩ := ih
    have hblank : c.isBlank = true := by
      rw [CodePoint.isBlank, hc]
      simp only [Bool.true_or]
    have hgap : IsBlank (w ++ c :: front) := by
      intro d hd
      rcases List.mem_append.1 hd with hd | hd
      · exact (hw d hd).1
      · rcases List.mem_cons.1 hd with rfl | hd
        · exact hblank
        · exact hfront d hd
    refine ⟨[], (p, w ++ c :: front) :: rows, rfl, by simp, nofun,
      List.forall_mem_cons.2 ⟨⟨hp, hgap⟩, entries⟩, ?_⟩
    intro row hrow
    cases rows with
    | nil => exact absurd hrow List.not_mem_nil
    | cons next rows =>
      rcases List.mem_cons.1 hrow with rfl | hrow
      · exact ⟨c, by simp, hc⟩
      · exact apart row hrow
  | @last p w hp hw =>
    refine ⟨[], [(p, w)], rfl, by simp, nofun, ?_, nofun⟩
    exact List.forall_mem_singleton.2 ⟨hp, fun c hc => (hw c hc).1⟩

/-! ## Every text is a listing -/

theorem endsLine_eq_false_of_not_isBlank (h : c.isBlank = false) : c.endsLine = false := by
  cases hends : c.endsLine with
  | false => rfl
  | true => simp [CodePoint.isBlank, hends] at h

/-- A line that does not begin with a blank is an entry with padding behind it. -/
theorem exists_entry (hc : c.isBlank = false) {v : Text} (hv : ∀ d ∈ v, d.endsLine = false) :
    ∃ p w, c :: v = p ++ w ∧ IsEntry p ∧ IsPadding w := by
  have start : c.endsLine = false := endsLine_eq_false_of_not_isBlank hc
  induction v using List.reverseRecOn with
  | nil => exact ⟨[c], [], rfl, ⟨by simp, by simpa, by simpa, by simpa⟩, nofun⟩
  | append_singleton v d ih =>
    cases hd : d.isBlank with
    | true =>
      obtain ⟨p, w, hline, hp, hw⟩ := ih fun e he => hv e (List.mem_append_left _ he)
      refine ⟨p, w ++ [d], ?_, hp, fun e he => ?_⟩
      · rw [← List.cons_append, hline, List.append_assoc]
      · rcases List.mem_append.1 he with he | he
        · exact hw e he
        · obtain rfl := List.mem_singleton.1 he
          exact ⟨hd, hv e (by simp)⟩
    | false =>
      have oneLine : ∀ e ∈ c :: (v ++ [d]), e.endsLine = false := List.forall_mem_cons.2 ⟨start, hv⟩
      have last : (c :: (v ++ [d])).getLast? = some d := by
        rw [← List.cons_append, List.getLast?_concat]
      exact ⟨c :: (v ++ [d]), [], by simp, ⟨by simp, oneLine, by simpa, by simpa [last]⟩, nofun⟩

end Text

namespace Toolchain

open Text

/-- A text is a listing of the entries that are read from it. -/
theorem isListing_listed (t : Text) : IsListing (listed t) t := by
  cases t with
  | nil => exact .nil
  | cons c t =>
    cases hc : c.isBlank with
    | true =>
      rw [listed_cons_of_isBlank hc]
      exact .blank hc (isListing_listed t)
    | false =>
      cases hfind : t.find? (·.endsLine) with
      | none =>
        have hv : ∀ d ∈ t, d.endsLine = false := fun d hd => by
          simpa using List.find?_eq_none.1 hfind d hd
        obtain ⟨p, w, hline, hp, hw⟩ := exists_entry hc hv
        rw [hline, listed_last hp hw]
        exact .last hp hw
      | some d =>
        obtain ⟨hd, v, u, ht, hv⟩ := List.find?_eq_some_iff_append.1 hfind
        obtain ⟨p, w, hline, hp, hw⟩ := exists_entry (v := v) hc fun e he => by simpa using hv e he
        have hlines : c :: t = p ++ w ++ d :: u := by
          rw [ht, ← hline, List.cons_append]
        have shorter : u.length < t.length := by
          rw [ht, List.length_append, List.length_cons]
          omega
        rw [hlines, listed_line hp hw hd]
        exact .line hp hw hd (isListing_listed u)
termination_by t.length
decreasing_by all_goals simp only [List.length_cons]; omega

/-- The entries that are read from a text are those of which it is made. -/
theorem listed_eq_iff {t : Text} {ps : List Text} : listed t = ps ↔ IsSpaced ps t := by
  constructor
  · rintro rfl
    exact (isListing_listed t).isSpaced
  · exact fun h => listed_of_isListing h.isListing

variable {t : Toolchain} {text : Text}

/-- **What is listed is what is spaced**: a toolchain that ends with success and prints a text, made
of some entries, lists these entries, whatever blanks stand between and around them. Every text is
made of entries in this way. They are the lines of the text without the blanks around them, as far
as these are not empty. -/
theorem listStandard_eq_ok_iff_isSpaced (runnable : FileSystem.textFault? t.binary = none)
    (prints : (t.program t.binary ["list", "std"]).Prints text) :
    (∀ importPaths, t.listStandard = .ok importPaths ↔ text.IsSpaced importPaths) ∧
    ∃ importPaths, t.listStandard = .ok importPaths ∧ (∀ p ∈ importPaths, p.IsEntry) ∧
      importPaths = (text.lines.map Text.trim).filter (· ≠ []) := by
  have lists := listStandard_of_prints runnable prints
  have spaced : ∀ importPaths, t.listStandard = .ok importPaths ↔ text.IsSpaced importPaths := by
    intro importPaths
    rw [lists, Except.ok.injEq, listed_eq_iff]
  exact ⟨spaced, listed text, lists, ((spaced _).1 lists).isEntry, rfl⟩

/-- Two import paths, with blanks of many kinds around them. -/
def airy : Text := "\u00A0\n\u2028 fmt\t\u000B\r\n\u001C\u3000net/http \u0085\r"

theorem listStandard_airy :
    let t : Toolchain := ⟨"go", fun _ _ => .ended airy.octets [] none⟩
    FileSystem.textFault? t.binary = none ∧ (t.program t.binary ["list", "std"]).Prints airy ∧
    t.listStandard = .ok ["fmt", "net/http"] ∧ airy.IsSpaced ["fmt", "net/http"] := by
  intro t
  have runnable : FileSystem.textFault? t.binary = none := by decide
  have prints : (t.program t.binary ["list", "std"]).Prints airy :=
    ⟨_, [], [], rfl, Text.decode_eq_ok_iff.2 ⟨Text.isScalar_ofString _, rfl⟩, rfl⟩
  obtain ⟨spaced, -⟩ := listStandard_eq_ok_iff_isSpaced runnable prints
  have lists : t.listStandard = .ok ["fmt", "net/http"] := by decide +kernel
  exact ⟨runnable, prints, lists, (spaced _).1 lists⟩

end Toolchain

end GoLexicon
