import GoLexicon.Package.Toolchain
import GoLexicon.Proofs.Text.Lines
import Mathlib.Data.List.TakeWhile
/-!
# Listings

A text is a listing of some entries if each of them stands on a line of its own, in order, with any
blanks around it (`Text.IsListing`). Exactly these entries are read from it
(`Toolchain.listed_of_isListing`).
-/

namespace GoLexicon

namespace Text

variable {c : CodePoint} {t w p : Text}

theorem trim_cons_of_isBlank (h : c.isBlank = true) : trim (c :: t) = trim t := by
  rw [trim, trim, trimStart, trimStart, List.dropWhile_cons_of_pos h]

/-- An entry of a listing: a text with no line end that neither begins nor ends with a blank. -/
structure IsEntry (p : Text) : Prop where
  ne_nil : p ≠ []
  oneLine : ∀ c ∈ p, c.endsLine = false
  head : ∀ c ∈ p.head?, c.isBlank = false
  last : ∀ c ∈ p.getLast?, c.isBlank = false

theorem isEntry_iff : IsEntry p ↔ p ≠ [] ∧ p.all (!·.endsLine) = true ∧
    p.head?.all (!·.isBlank) = true ∧ p.getLast?.all (!·.isBlank) = true := by
  simp only [List.all_eq_true, Option.all_eq_true, Bool.not_eq_true']
  exact ⟨fun ⟨ne_nil, oneLine, head, last⟩ => ⟨ne_nil, oneLine, head, last⟩,
    fun ⟨ne_nil, oneLine, head, last⟩ => ⟨ne_nil, oneLine, head, last⟩⟩

instance (p : Text) : Decidable p.IsEntry := decidable_of_iff' _ isEntry_iff

/-- Blanks on a line. -/
def IsPadding (w : Text) : Prop := ∀ c ∈ w, c.isBlank = true ∧ c.endsLine = false

theorem IsEntry.trim_append (h : IsEntry p) (hw : IsPadding w) : trim (p ++ w) = p := by
  have start : trimStart (p ++ w) = p ++ w := by
    cases p with
    | nil => exact absurd rfl h.ne_nil
    | cons c p => exact List.dropWhile_cons_of_neg (by simp [h.head c rfl])
  have padding : w.reverse.dropWhile (·.isBlank) = [] :=
    List.dropWhile_eq_nil_iff.2 fun c hc => (hw c (List.mem_reverse.1 hc)).1
  have stop : p.reverse.dropWhile (·.isBlank) = p.reverse := by
    cases hp : p.reverse with
    | nil => rfl
    | cons c q =>
      have hlast : c ∈ p.getLast? := by rw [← List.head?_reverse, hp]; rfl
      exact List.dropWhile_cons_of_neg (by simp [h.last c hlast])
  rw [trim, start, List.reverse_append, List.dropWhile_append, padding, if_pos List.isEmpty_nil,
    stop, List.reverse_reverse]

/-- A text has some entries, in order, each on a line of its own, and blanks around them. -/
inductive IsListing : List Text → Text → Prop where
  | nil : IsListing [] []
  | blank {c : CodePoint} {ps : List Text} {t : Text} (hc : c.isBlank = true)
      (h : IsListing ps t) : IsListing ps (c :: t)
  | line {c : CodePoint} {p w : Text} {ps : List Text} {t : Text} (hp : IsEntry p)
      (hw : IsPadding w) (hc : c.endsLine = true) (h : IsListing ps t) :
      IsListing (p :: ps) (p ++ w ++ c :: t)
  /-- Behind the last entry there need be no line end. -/
  | last {p w : Text} (hp : IsEntry p) (hw : IsPadding w) : IsListing [p] (p ++ w)

end Text

namespace Toolchain

open Text

variable {c : CodePoint} {t w p : Text} {ps : List Text}

theorem listed_unifyNewlines (t : Text) : listed t.unifyNewlines = listed t := by
  rw [listed, lines_unifyNewlines, listed]

theorem listed_behindReturn (t : Text) : listed (behindReturn t) = listed t := by
  cases t with
  | nil => rfl
  | cons d u =>
    rw [behindReturn]
    split
    · next hd =>
      have split : lines (d :: u) = [] :: lines u :=
        linesFrom_cons_of_endsLine (hd ▸ by decide) (hd ▸ by decide)
      rw [listed, listed, split]
      exact (List.filter_cons_of_neg (by decide)).symm
    · rfl

/-- Blanks in front of a listing do not count. -/
theorem listed_cons_of_isBlank (h : c.isBlank = true) : listed (c :: t) = listed t := by
  cases hends : c.endsLine with
  | true =>
    obtain ⟨u, hu, hlines⟩ := exists_linesFrom_end hends t
    have same : listed u = listed t := hu.elim (fun hu => hu ▸ rfl) fun hu => hu ▸ listed_behindReturn t
    rw [listed, lines, hlines none, ← same]
    exact List.filter_cons_of_neg (by decide)
  | false =>
    obtain ⟨first, rest, hfirst, hlines⟩ := exists_linesFrom t
    have split : lines (c :: t) = (c :: first) :: rest := by
      rw [lines, linesFrom_cons hends]
      exact hfirst [c]
    rw [listed, split, List.map_cons, trim_cons_of_isBlank h]
    obtain ⟨rfl, rfl, rfl⟩ | hlines := hlines
    · rfl
    · rw [listed, hlines, List.map_cons]

section entry

variable (hp : IsEntry p) (hw : IsPadding w)
include hp hw

theorem lines_entry (t : Text) : lines (p ++ w ++ t) = linesFrom (some (p ++ w).reverse) t := by
  refine lines_append (fun c hc => ?_) fun h => hp.ne_nil (List.append_eq_nil_iff.1 h).1
  exact (List.mem_append.1 hc).elim (hp.oneLine c) fun hc => (hw c hc).2

/-- The line of an entry is read as this entry. -/
theorem listed_line (hc : c.endsLine = true) : listed (p ++ w ++ c :: t) = p :: listed t := by
  obtain ⟨u, hu, hlines⟩ := exists_linesFrom_end hc t
  have same : listed u = listed t := hu.elim (fun hu => hu ▸ rfl) fun hu => hu ▸ listed_behindReturn t
  rw [listed, lines_entry hp hw, hlines, Option.getD_some, List.reverse_reverse, List.map_cons,
    hp.trim_append hw, List.filter_cons_of_pos (by simpa using hp.ne_nil), ← same, listed]

theorem listed_last : listed (p ++ w) = [p] := by
  have line := lines_entry hp hw []
  rw [List.append_nil, linesFrom, List.reverse_reverse] at line
  rw [listed, line, List.map_singleton, hp.trim_append hw]
  exact List.filter_cons_of_pos (by simpa using hp.ne_nil)

end entry

/-- Exactly the entries are read from a listing. -/
theorem listed_of_isListing (h : IsListing ps t) : listed t = ps := by
  induction h with
  | nil => rfl
  | blank hc _ ih => rw [listed_cons_of_isBlank hc, ih]
  | line hp hw hc _ ih => rw [listed_line hp hw hc, ih]
  | last hp hw => exact listed_last hp hw

end Toolchain

end GoLexicon
