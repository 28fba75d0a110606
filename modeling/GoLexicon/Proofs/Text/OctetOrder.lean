import GoLexicon.Proofs.Text.Utf8
import GoLexicon.Proofs.Word.Membership
/-!
# The order of octets

Texts are ordered by their code points, and their octets are in the same order
(`Text.octets_lt_iff`). It is enough that this is so at the first code point in which two texts
differ: a greater code point has at least as many octets, with more of them it begins with a greater
octet, and with as many the octets are its digits, the greatest first
(`CodePoint.octets_append_lt`). What is behind the two code points is not looked at, so that no text
is mistaken for the beginning of another one.

A set of words may therefore be sorted by the octets of its members (`WordSet.words_eq_mergeSort`).
-/

namespace GoLexicon

/-! ## Code points -/

theorem toUInt8_inj {n m : Nat} (hn : n < 0x100) (hm : m < 0x100) :
    n.toUInt8 = m.toUInt8 ↔ n = m := by
  rw [← UInt8.toNat_inj, toNat_toUInt8 hn, toNat_toUInt8 hm]

theorem toUInt8_cons_lt {n m : Nat} (hn : n < 0x100) (hm : m < 0x100) {x y : Bytes} :
    n.toUInt8 :: x < m.toUInt8 :: y ↔ n < m ∨ n = m ∧ x < y := by
  rw [List.cons_lt_cons_iff, toUInt8_inj hn hm, UInt8.lt_iff_toNat_lt, toNat_toUInt8 hn,
    toNat_toUInt8 hm]

namespace CodePoint

variable {c d : CodePoint}

/-- The octets of a code point, by their number. -/
theorem octets_cases (c : CodePoint) :
    (c.val < 0x80 ∧ c.octets = [c.val.toUInt8]) ∨
    (0x80 ≤ c.val ∧ c.val < 0x800 ∧
      c.octets = [(0xC0 + c.val / 0x40).toUInt8, (0x80 + c.val % 0x40).toUInt8]) ∨
    (0x800 ≤ c.val ∧ c.val < 0x10000 ∧ c.octets =
      [(0xE0 + c.val / 0x1000).toUInt8, (0x80 + c.val / 0x40 % 0x40).toUInt8,
        (0x80 + c.val % 0x40).toUInt8]) ∨
    (0x10000 ≤ c.val ∧ c.val < 0x110000 ∧ c.octets =
      [(0xF0 + c.val / 0x40000).toUInt8, (0x80 + c.val / 0x1000 % 0x40).toUInt8,
        (0x80 + c.val / 0x40 % 0x40).toUInt8, (0x80 + c.val % 0x40).toUInt8]) := by
  by_cases h1 : c.val < 0x80
  · exact .inl ⟨h1, octets_one h1⟩
  by_cases h2 : c.val < 0x800
  · exact .inr (.inl ⟨by omega, h2, octets_two (by omega) h2⟩)
  by_cases h3 : c.val < 0x10000
  · exact .inr (.inr (.inl ⟨by omega, h3, octets_three (by omega) h3⟩))
  · exact .inr (.inr (.inr ⟨by omega, c.isLt, octets_four (by omega)⟩))

/-- The octets of a code point come before those of a greater one, whatever is behind them. -/
theorem octets_append_lt (h : c < d) (x y : Bytes) : c.octets ++ x < d.octets ++ y := by
  have hlt : c.val < d.val := h
  -- sixteen cases: where the numbers of octets differ, the first octets decide
  rcases octets_cases c with ⟨hc, ec⟩ | ⟨hc, hc', ec⟩ | ⟨hc, hc', ec⟩ | ⟨hc, hc', ec⟩ <;>
    rcases octets_cases d with ⟨hd, ed⟩ | ⟨hd, hd', ed⟩ | ⟨hd, hd', ed⟩ | ⟨hd, hd', ed⟩ <;>
    · rw [ec, ed]
      simp (disch := omega) only [List.cons_append, List.nil_append, toUInt8_cons_lt]
      omega

theorem octets_ne_nil (c : CodePoint) : c.octets ≠ [] := by
  rcases octets_cases c with ⟨-, h⟩ | ⟨-, -, h⟩ | ⟨-, -, h⟩ | ⟨-, -, h⟩ <;> simp [h]

/-- Octets of a code point that has more than one are no ASCII. -/
theorem mem_octets_iff_of_ascii {n : Nat} (hn : n < 0x80) : n.toUInt8 ∈ c.octets ↔ c.val = n := by
  rcases octets_cases c with ⟨hc, ec⟩ | ⟨hc, hc', ec⟩ | ⟨hc, hc', ec⟩ | ⟨hc, hc', ec⟩ <;>
    · rw [ec]
      simp (disch := omega) only [List.mem_cons, List.not_mem_nil, or_false, toUInt8_inj]
      omega

end CodePoint

/-! ## Texts -/

namespace Text

variable {u v w : Text}

theorem octets_cons (c : CodePoint) (t : Text) : octets (c :: t) = c.octets ++ octets t :=
  List.flatMap_cons

theorem octets_append (t u : Text) : octets (t ++ u) = octets t ++ octets u :=
  List.flatMap_append

theorem octets_lt_octets (h : u < v) : u.octets < v.octets := by
  induction u generalizing v with
  | nil =>
    cases v with
    | nil => exact absurd h (List.lt_irrefl _)
    | cons d v =>
      obtain ⟨b, rest, hb⟩ := List.exists_cons_of_ne_nil d.octets_ne_nil
      rw [octets_cons, hb]
      exact List.nil_lt_cons b _
  | cons c u ih =>
    cases v with
    | nil => exact absurd h (List.not_lt_nil _)
    | cons d v =>
      rw [octets_cons, octets_cons]
      rcases List.cons_lt_cons_iff.1 h with hcd | ⟨rfl, huv⟩
      · exact CodePoint.octets_append_lt hcd _ _
      · exact List.append_left_lt (ih huv)

/-- **Texts are in the order of their octets.** -/
theorem octets_lt_iff : u.octets < v.octets ↔ u < v := by
  refine ⟨fun h => ?_, octets_lt_octets⟩
  by_contra hn
  by_cases hvu : v < u
  · exact List.lt_asymm h (octets_lt_octets hvu)
  · rw [eq_of_not_lt hn hvu] at h
    exact List.lt_irrefl _ h

/-- An ASCII octet is among the octets of a text only for its own code point. -/
theorem mem_octets_iff_of_ascii {c : CodePoint} (hc : c.val < 0x80) :
    c.val.toUInt8 ∈ w.octets ↔ c ∈ w := by
  simp only [octets, List.mem_flatMap, CodePoint.mem_octets_iff_of_ascii hc]
  constructor
  · rintro ⟨d, hd, hdc⟩
    exact Fin.ext hdc ▸ hd
  · intro hmem
    exact ⟨c, hmem, rfl⟩

end Text

/-! ## Sets of words -/

/-- The members of a set in order are its members sorted by their octets, in whatever order they are
found. -/
theorem WordSet.words_eq_mergeSort {s : WordSet} {ws : List Text} (nodup : ws.Nodup)
    (hws : ∀ w, w ∈ ws ↔ w ∈ s) :
    s.words = ws.mergeSort fun u v => !decide (v.octets < u.octets) := by
  simp only [Text.octets_lt_iff]
  have sorted : (ws.mergeSort fun u v => !decide (v < u)).Pairwise fun u v => ¬ v < u := by
    refine (List.pairwise_mergeSort ?_ ?_ ws).imp fun h => by simpa using h
    · intro t u v htu huv
      simp only [Bool.not_eq_true', decide_eq_false_iff_not, List.not_lt] at htu huv ⊢
      exact List.le_trans htu huv
    · intro u v
      by_cases h : v < u
      · simp [List.lt_asymm h]
      · simp [h]
  have perm : s.words.Perm (ws.mergeSort fun u v => !decide (v < u)) := by
    refine List.Perm.trans ?_ (List.mergeSort_perm ws _).symm
    exact (List.perm_ext_iff_of_nodup (nodup_of_ascending s.ascending) nodup).2
      fun w => (hws w).symm
  have ascending : s.words.Pairwise fun u v => ¬ v < u := s.ascending.imp List.lt_asymm
  exact perm.eq_of_pairwise (fun _ _ _ _ h h' => Text.eq_of_not_lt h' h) ascending sorted

end GoLexicon
