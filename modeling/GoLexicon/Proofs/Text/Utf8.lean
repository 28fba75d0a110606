import GoLexicon.Proofs.Except
import GoLexicon.Text.Utf8
import Mathlib.Data.List.TakeWhile
/-!
# Reading what has been written

Octets that begin with a piece which is a code point begin with the octets of this code point, and
it is no surrogate (`Utf8.opens_of_piecesFrom`); and the octets of such a code point are read as
this piece (`Utf8.piecesFrom_octets`). So `Text.decode` gives a text exactly when the octets are
those of the text, and the text has no surrogate (`Text.decode_eq_ok_iff`), which is also when
`Text.encode` gives these octets (`Text.encode_eq_ok_iff`).
-/

namespace GoLexicon

/-! ## Octets of code points -/

theorem toUInt8_toNat (b : UInt8) : b.toNat.toUInt8 = b := UInt8.ofNat_toNat

theorem toNat_toUInt8 {n : Nat} (h : n < 0x100) : n.toUInt8.toNat = n := by
  simpa using Nat.mod_eq_of_lt h

namespace CodePoint

variable {c : CodePoint}

theorem ofNat_val (c : CodePoint) : ofNat c.val = c := Fin.ofNat_val_eq_self c

theorem val_ofNat {n : Nat} (h : n < 0x110000) : (ofNat n).val = n := Nat.mod_eq_of_lt h

theorem isSurrogate_eq_false (h : c.val < 0xD800 ∨ 0xE000 ≤ c.val) : c.isSurrogate = false := by
  simp only [isSurrogate, Bool.and_eq_false_iff, decide_eq_false_iff_not]
  omega

theorem isSurrogate_ofChar (x : Char) : (ofChar x).isSurrogate = false := by
  have valid : x.toNat < 0xD800 ∨ 0xDFFF < x.toNat ∧ x.toNat < 0x110000 := x.valid
  have hx : (ofChar x).val = x.toNat := val_ofNat (by omega)
  exact isSurrogate_eq_false (by omega)

theorem octets_one (h : c.val < 0x80) : c.octets = [c.val.toUInt8] := by
  rw [octets, if_pos h]

theorem octets_two (h : 0x80 ≤ c.val) (h' : c.val < 0x800) :
    c.octets = [(0xC0 + c.val / 0x40).toUInt8, (0x80 + c.val % 0x40).toUInt8] := by
  rw [octets, if_neg (by omega), if_pos h']

theorem octets_three (h : 0x800 ≤ c.val) (h' : c.val < 0x10000) : c.octets =
    [(0xE0 + c.val / 0x1000).toUInt8, (0x80 + c.val / 0x40 % 0x40).toUInt8,
      (0x80 + c.val % 0x40).toUInt8] := by
  rw [octets, if_neg (by omega), if_neg (by omega), if_pos h']

theorem octets_four (h : 0x10000 ≤ c.val) : c.octets =
    [(0xF0 + c.val / 0x40000).toUInt8, (0x80 + c.val / 0x1000 % 0x40).toUInt8,
      (0x80 + c.val / 0x40 % 0x40).toUInt8, (0x80 + c.val % 0x40).toUInt8] := by
  rw [octets, if_neg (by omega), if_neg (by omega), if_neg (by omega)]

end CodePoint

namespace Utf8

variable {b : UInt8} {rest : Bytes} {p : Pending} {c : CodePoint} {ps : List Piece}

/-! ## Single steps -/

theorem piecesFrom_lead_point (h : b.toNat < 0x80) :
    piecesFrom none (b :: rest) = .point (CodePoint.ofNat b.toNat) :: piecesFrom none rest := by
  simp [piecesFrom, step, begin, lead, h]

theorem piecesFrom_lead_none (h : lead b = .none) :
    piecesFrom none (b :: rest) = .flaw .start [b] :: piecesFrom none rest := by
  simp [piecesFrom, step, begin, h]

theorem piecesFrom_lead_sequence (h : lead b = .sequence p) :
    piecesFrom none (b :: rest) = piecesFrom (some p) rest := by
  simp [piecesFrom, step, begin, h]

/-- The last octet of a sequence. -/
theorem piecesFrom_last {octets : Bytes} {value low high : Nat}
    (h : low ≤ b.toNat ∧ b.toNat ≤ high) :
    piecesFrom (some ⟨octets, value, 0, low, high⟩) (b :: rest) =
      .point (CodePoint.ofNat (value * 0x40 + (b.toNat - 0x80))) :: piecesFrom none rest := by
  simp [piecesFrom, step, Pending.admits, h]

/-- An octet inside a sequence. -/
theorem piecesFrom_inner {octets : Bytes} {value after low high : Nat}
    (h : low ≤ b.toNat ∧ b.toNat ≤ high) :
    piecesFrom (some ⟨octets, value, after + 1, low, high⟩) (b :: rest) =
      piecesFrom (some ⟨octets ++ [b], value * 0x40 + (b.toNat - 0x80), after, 0x80, 0xBF⟩)
        rest := by
  simp [piecesFrom, step, Pending.admits, h]

/-- A sequence that is open begins with a code point only if the next octet fits. -/
theorem exists_of_piecesFrom_some {octets bytes : Bytes} {value after low high : Nat}
    (h : piecesFrom (some ⟨octets, value, after, low, high⟩) bytes = .point c :: ps) :
    ∃ b rest, bytes = b :: rest ∧ low ≤ b.toNat ∧ b.toNat ≤ high := by
  cases bytes with
  | nil => cases h
  | cons b rest =>
    by_cases admitted : low ≤ b.toNat ∧ b.toNat ≤ high
    · exact ⟨b, rest, rfl, admitted⟩
    · simp [piecesFrom, step, Pending.admits, admitted] at h

theorem piecesFrom_some_ne_nil (p : Pending) (bytes : Bytes) : piecesFrom (some p) bytes ≠ [] := by
  induction bytes generalizing p with
  | nil => exact List.cons_ne_nil _ _
  | cons b rest ih =>
    rw [piecesFrom, step]
    split
    · split
      · exact List.cons_ne_nil _ _
      · exact ih _
    · exact List.cons_ne_nil _ _

theorem piecesFrom_eq_nil_iff {bytes : Bytes} : piecesFrom none bytes = [] ↔ bytes = [] := by
  refine ⟨fun h => ?_, fun h => h ▸ rfl⟩
  cases bytes with
  | nil => rfl
  | cons b rest =>
    rw [piecesFrom, step, begin] at h
    split at h
    · cases h
    · exact absurd h (piecesFrom_some_ne_nil _ _)
    · cases h

/-! ## First octets -/

theorem lt_of_lead_eq_point (h : lead b = .point c) : b.toNat < 0x80 := by
  unfold lead at h
  grind

/-- What the first octet says of the sequence that it begins. -/
theorem lead_eq_sequence_iff : lead b = .sequence p ↔
    0xC2 ≤ b.toNat ∧ b.toNat < 0xE0 ∧ p = ⟨[b], b.toNat - 0xC0, 0, 0x80, 0xBF⟩ ∨
    0xE0 ≤ b.toNat ∧ b.toNat < 0xF0 ∧ p = ⟨[b], b.toNat - 0xE0, 1,
      if b.toNat = 0xE0 then 0xA0 else 0x80, if b.toNat = 0xED then 0x9F else 0xBF⟩ ∨
    0xF0 ≤ b.toNat ∧ b.toNat < 0xF5 ∧ p = ⟨[b], b.toNat - 0xF0, 2,
      if b.toNat = 0xF0 then 0x90 else 0x80, if b.toNat = 0xF4 then 0x8F else 0xBF⟩ := by
  unfold lead
  grind

/-! ## The octets of a code point are read as it -/

theorem piecesFrom_octets_one (h : c.val < 0x80) (rest : Bytes) :
    piecesFrom none (c.octets ++ rest) = .point c :: piecesFrom none rest := by
  have hb : c.val.toUInt8.toNat = c.val := toNat_toUInt8 (by omega)
  rw [CodePoint.octets_one h, List.singleton_append, piecesFrom_lead_point (by omega), hb,
    CodePoint.ofNat_val]

theorem piecesFrom_octets_two (h : 0x80 ≤ c.val) (h' : c.val < 0x800) (rest : Bytes) :
    piecesFrom none (c.octets ++ rest) = .point c :: piecesFrom none rest := by
  have h₀ : (0xC0 + c.val / 0x40).toUInt8.toNat = 0xC0 + c.val / 0x40 := toNat_toUInt8 (by omega)
  have h₁ : (0x80 + c.val % 0x40).toUInt8.toNat = 0x80 + c.val % 0x40 := toNat_toUInt8 (by omega)
  rw [CodePoint.octets_two h h', List.cons_append, List.singleton_append,
    piecesFrom_lead_sequence (lead_eq_sequence_iff.2 (.inl ⟨by omega, by omega, rfl⟩)),
    piecesFrom_last (by omega), h₀, h₁]
  have hv : (0xC0 + c.val / 0x40 - 0xC0) * 0x40 + (0x80 + c.val % 0x40 - 0x80) = c.val := by omega
  rw [hv, CodePoint.ofNat_val]

theorem piecesFrom_octets_three (h : 0x800 ≤ c.val) (h' : c.val < 0x10000)
    (hs : ¬ (0xD800 ≤ c.val ∧ c.val < 0xE000)) (rest : Bytes) :
    piecesFrom none (c.octets ++ rest) = .point c :: piecesFrom none rest := by
  have h₀ : (0xE0 + c.val / 0x1000).toUInt8.toNat = 0xE0 + c.val / 0x1000 :=
    toNat_toUInt8 (by omega)
  have h₁ : (0x80 + c.val / 0x40 % 0x40).toUInt8.toNat = 0x80 + c.val / 0x40 % 0x40 :=
    toNat_toUInt8 (by omega)
  have h₂ : (0x80 + c.val % 0x40).toUInt8.toNat = 0x80 + c.val % 0x40 := toNat_toUInt8 (by omega)
  rw [CodePoint.octets_three h h', List.cons_append, List.cons_append, List.singleton_append,
    piecesFrom_lead_sequence (lead_eq_sequence_iff.2 (.inr (.inl ⟨by omega, by omega, rfl⟩))),
    piecesFrom_inner (by constructor <;> split <;> omega), piecesFrom_last (by omega), h₀, h₁, h₂]
  have hv : ((0xE0 + c.val / 0x1000 - 0xE0) * 0x40 + (0x80 + c.val / 0x40 % 0x40 - 0x80)) * 0x40
      + (0x80 + c.val % 0x40 - 0x80) = c.val := by omega
  rw [hv, CodePoint.ofNat_val]

theorem piecesFrom_octets_four (h : 0x10000 ≤ c.val) (rest : Bytes) :
    piecesFrom none (c.octets ++ rest) = .point c :: piecesFrom none rest := by
  have hc : c.val < 0x110000 := c.isLt
  have h₀ : (0xF0 + c.val / 0x40000).toUInt8.toNat = 0xF0 + c.val / 0x40000 :=
    toNat_toUInt8 (by omega)
  have h₁ : (0x80 + c.val / 0x1000 % 0x40).toUInt8.toNat = 0x80 + c.val / 0x1000 % 0x40 :=
    toNat_toUInt8 (by omega)
  have h₂ : (0x80 + c.val / 0x40 % 0x40).toUInt8.toNat = 0x80 + c.val / 0x40 % 0x40 :=
    toNat_toUInt8 (by omega)
  have h₃ : (0x80 + c.val % 0x40).toUInt8.toNat = 0x80 + c.val % 0x40 := toNat_toUInt8 (by omega)
  rw [CodePoint.octets_four h, List.cons_append, List.cons_append, List.cons_append,
    List.singleton_append,
    piecesFrom_lead_sequence (lead_eq_sequence_iff.2 (.inr (.inr ⟨by omega, by omega, rfl⟩))),
    piecesFrom_inner (by constructor <;> split <;> omega), piecesFrom_inner (by omega),
    piecesFrom_last (by omega), h₀, h₁, h₂, h₃]
  have hv : (((0xF0 + c.val / 0x40000 - 0xF0) * 0x40 + (0x80 + c.val / 0x1000 % 0x40 - 0x80))
      * 0x40 + (0x80 + c.val / 0x40 % 0x40 - 0x80)) * 0x40 + (0x80 + c.val % 0x40 - 0x80) =
      c.val := by omega
  rw [hv, CodePoint.ofNat_val]

theorem piecesFrom_octets (h : c.isSurrogate = false) (rest : Bytes) :
    piecesFrom none (c.octets ++ rest) = .point c :: piecesFrom none rest := by
  have hs : ¬ (0xD800 ≤ c.val ∧ c.val < 0xE000) := by simpa [CodePoint.isSurrogate] using h
  rcases Nat.lt_or_ge c.val 0x80 with h1 | h1
  · exact piecesFrom_octets_one h1 rest
  rcases Nat.lt_or_ge c.val 0x800 with h2 | h2
  · exact piecesFrom_octets_two h1 h2 rest
  rcases Nat.lt_or_ge c.val 0x10000 with h3 | h3
  · exact piecesFrom_octets_three h2 h3 hs rest
  · exact piecesFrom_octets_four h3 rest

/-! ## What is read as a code point -/

/-- Octets begin with those of a code point that is no surrogate, and what is behind it is read as
some pieces. -/
def Opens (c : CodePoint) (ps : List Piece) (bytes : Bytes) : Prop :=
  c.isSurrogate = false ∧ ∃ rest, bytes = c.octets ++ rest ∧ ps = piecesFrom none rest

theorem opens_of_one (h : b.toNat < 0x80)
    (hp : piecesFrom none (b :: rest) = .point c :: ps) : Opens c ps (b :: rest) := by
  rw [piecesFrom_lead_point h] at hp
  obtain ⟨hc, hps⟩ := List.cons.inj hp
  obtain rfl := Piece.point.inj hc
  have hv : (CodePoint.ofNat b.toNat).val = b.toNat := CodePoint.val_ofNat (by omega)
  refine ⟨CodePoint.isSurrogate_eq_false (by omega), rest, ?_, hps.symm⟩
  rw [CodePoint.octets_one (by omega), hv, toUInt8_toNat, List.singleton_append]

theorem opens_of_two (hmin : 0xC2 ≤ b.toNat) (hmax : b.toNat < 0xE0)
    (h : piecesFrom (some ⟨[b], b.toNat - 0xC0, 0, 0x80, 0xBF⟩) rest = .point c :: ps) :
    Opens c ps (b :: rest) := by
  obtain ⟨b₁, rest₁, rfl, hlow, hhigh⟩ := exists_of_piecesFrom_some h
  rw [piecesFrom_last ⟨hlow, hhigh⟩] at h
  obtain ⟨hc, hps⟩ := List.cons.inj h
  have hv : c.val = (b.toNat - 0xC0) * 0x40 + (b₁.toNat - 0x80) := by
    rw [← Piece.point.inj hc]
    exact CodePoint.val_ofNat (by omega)
  have h₀ : 0xC0 + c.val / 0x40 = b.toNat := by omega
  have h₁ : 0x80 + c.val % 0x40 = b₁.toNat := by omega
  refine ⟨CodePoint.isSurrogate_eq_false (by omega), rest₁, ?_, hps.symm⟩
  rw [CodePoint.octets_two (by omega) (by omega), h₀, h₁, toUInt8_toNat, toUInt8_toNat]
  rfl

theorem opens_of_three (hmin : 0xE0 ≤ b.toNat) (hmax : b.toNat < 0xF0)
    (h : piecesFrom (some ⟨[b], b.toNat - 0xE0, 1, if b.toNat = 0xE0 then 0xA0 else 0x80,
      if b.toNat = 0xED then 0x9F else 0xBF⟩) rest = .point c :: ps) : Opens c ps (b :: rest) := by
  obtain ⟨b₁, rest₁, rfl, hlow, hhigh⟩ := exists_of_piecesFrom_some h
  rw [piecesFrom_inner ⟨hlow, hhigh⟩] at h
  obtain ⟨b₂, rest₂, rfl, hlow₂, hhigh₂⟩ := exists_of_piecesFrom_some h
  rw [piecesFrom_last ⟨hlow₂, hhigh₂⟩] at h
  obtain ⟨hc, hps⟩ := List.cons.inj h
  -- the bounds on the second octet keep out what is too long, and the surrogates
  have hlow' : 0x80 ≤ b₁.toNat ∧ (b.toNat = 0xE0 → 0xA0 ≤ b₁.toNat) := by grind
  have hhigh' : b₁.toNat ≤ 0xBF ∧ (b.toNat = 0xED → b₁.toNat ≤ 0x9F) := by grind
  have hv : c.val = ((b.toNat - 0xE0) * 0x40 + (b₁.toNat - 0x80)) * 0x40 + (b₂.toNat - 0x80) := by
    rw [← Piece.point.inj hc]
    exact CodePoint.val_ofNat (by omega)
  have h₀ : 0xE0 + c.val / 0x1000 = b.toNat := by omega
  have h₁ : 0x80 + c.val / 0x40 % 0x40 = b₁.toNat := by omega
  have h₂ : 0x80 + c.val % 0x40 = b₂.toNat := by omega
  refine ⟨CodePoint.isSurrogate_eq_false (by omega), rest₂, ?_, hps.symm⟩
  rw [CodePoint.octets_three (by omega) (by omega), h₀, h₁, h₂, toUInt8_toNat, toUInt8_toNat,
    toUInt8_toNat]
  rfl

theorem opens_of_four (hmin : 0xF0 ≤ b.toNat) (hmax : b.toNat < 0xF5)
    (h : piecesFrom (some ⟨[b], b.toNat - 0xF0, 2, if b.toNat = 0xF0 then 0x90 else 0x80,
      if b.toNat = 0xF4 then 0x8F else 0xBF⟩) rest = .point c :: ps) : Opens c ps (b :: rest) := by
  obtain ⟨b₁, rest₁, rfl, hlow, hhigh⟩ := exists_of_piecesFrom_some h
  rw [piecesFrom_inner ⟨hlow, hhigh⟩] at h
  obtain ⟨b₂, rest₂, rfl, hlow₂, hhigh₂⟩ := exists_of_piecesFrom_some h
  rw [piecesFrom_inner ⟨hlow₂, hhigh₂⟩] at h
  obtain ⟨b₃, rest₃, rfl, hlow₃, hhigh₃⟩ := exists_of_piecesFrom_some h
  rw [piecesFrom_last ⟨hlow₃, hhigh₃⟩] at h
  obtain ⟨hc, hps⟩ := List.cons.inj h
  -- the bounds on the second octet keep out what is too long, and what is no code point
  have hlow' : 0x80 ≤ b₁.toNat ∧ (b.toNat = 0xF0 → 0x90 ≤ b₁.toNat) := by grind
  have hhigh' : b₁.toNat ≤ 0xBF ∧ (b.toNat = 0xF4 → b₁.toNat ≤ 0x8F) := by grind
  have hv : c.val = (((b.toNat - 0xF0) * 0x40 + (b₁.toNat - 0x80)) * 0x40
      + (b₂.toNat - 0x80)) * 0x40 + (b₃.toNat - 0x80) := by
    rw [← Piece.point.inj hc]
    exact CodePoint.val_ofNat (by omega)
  have h₀ : 0xF0 + c.val / 0x40000 = b.toNat := by omega
  have h₁ : 0x80 + c.val / 0x1000 % 0x40 = b₁.toNat := by omega
  have h₂ : 0x80 + c.val / 0x40 % 0x40 = b₂.toNat := by omega
  have h₃ : 0x80 + c.val % 0x40 = b₃.toNat := by omega
  refine ⟨CodePoint.isSurrogate_eq_false (by omega), rest₃, ?_, hps.symm⟩
  rw [CodePoint.octets_four (by omega), h₀, h₁, h₂, h₃, toUInt8_toNat, toUInt8_toNat,
    toUInt8_toNat, toUInt8_toNat]
  rfl

/-- Octets that begin with a piece which is a code point begin with its octets. -/
theorem opens_of_piecesFrom {bytes : Bytes} (h : piecesFrom none bytes = .point c :: ps) :
    Opens c ps bytes := by
  cases bytes with
  | nil => cases h
  | cons b rest =>
    cases hl : lead b with
    | none =>
      rw [piecesFrom_lead_none hl] at h
      cases h
    | point c' => exact opens_of_one (lt_of_lead_eq_point hl) h
    | sequence p =>
      rw [piecesFrom_lead_sequence hl] at h
      obtain ⟨hmin, hmax, rfl⟩ | ⟨hmin, hmax, rfl⟩ | ⟨hmin, hmax, rfl⟩ := lead_eq_sequence_iff.1 hl
      · exact opens_of_two hmin hmax h
      · exact opens_of_three hmin hmax h
      · exact opens_of_four hmin hmax h

end Utf8

namespace Text

variable {t : Text} {bytes : Bytes}

theorem isScalar_ofString (s : String) : (ofString s).IsScalar := by
  intro c hc
  obtain ⟨x, -, rfl⟩ := List.mem_map.1 hc
  exact CodePoint.isSurrogate_ofChar x

theorem encode_eq_ok_iff : encode t = .ok bytes ↔ t.IsScalar ∧ t.octets = bytes := by
  have scalar : t.dropWhile (!·.isSurrogate) = [] ↔ t.IsScalar := by
    rw [List.dropWhile_eq_nil_iff]
    simp [IsScalar]
  unfold encode
  split
  · next h => simp [scalar.1 h]
  · next h => simpa using fun hs => absurd (scalar.2 hs) h

theorem ofPieces_octets (h : t.IsScalar) (position : Nat) :
    ofPieces position (Utf8.piecesFrom none t.octets) = .ok t := by
  induction t generalizing position with
  | nil => rfl
  | cons c t ih =>
    obtain ⟨hc, ht⟩ := List.forall_mem_cons.1 h
    have split : octets (c :: t) = c.octets ++ octets t := List.flatMap_cons
    rw [split, Utf8.piecesFrom_octets hc, ofPieces, ih ht]
    rfl

theorem octets_of_ofPieces {position : Nat}
    (h : ofPieces position (Utf8.piecesFrom none bytes) = .ok t) :
    t.IsScalar ∧ t.octets = bytes := by
  induction t generalizing bytes position with
  | nil =>
    cases hp : Utf8.piecesFrom none bytes with
    | nil => exact ⟨List.forall_mem_nil _, (Utf8.piecesFrom_eq_nil_iff.1 hp).symm⟩
    | cons piece ps =>
      rw [hp] at h
      cases piece with
      | flaw why octets => cases h
      | point c =>
        obtain ⟨t, -, h⟩ := Except.bind_eq_ok_iff.1 h
        cases h
  | cons c t ih =>
    cases hp : Utf8.piecesFrom none bytes with
    | nil =>
      rw [hp] at h
      cases h
    | cons piece ps =>
      rw [hp] at h
      cases piece with
      | flaw why octets => cases h
      | point c' =>
        obtain ⟨t', ht, h⟩ := Except.bind_eq_ok_iff.1 h
        obtain ⟨rfl, rfl⟩ := List.cons.inj (Except.ok.inj h)
        obtain ⟨hc, rest, rfl, rfl⟩ := Utf8.opens_of_piecesFrom hp
        obtain ⟨scalar, hoctets⟩ := ih ht
        refine ⟨List.forall_mem_cons.2 ⟨hc, scalar⟩, ?_⟩
        rw [← hoctets]
        exact List.flatMap_cons

/-- **Reading what has been written**: octets are decoded to a text exactly when they are its
octets, and it has no surrogate. -/
theorem decode_eq_ok_iff : decode bytes = .ok t ↔ t.IsScalar ∧ t.octets = bytes :=
  ⟨octets_of_ofPieces, fun ⟨scalar, h⟩ => h ▸ ofPieces_octets scalar 0⟩

theorem map_of_ofPieces {position : Nat} {pieces : List Utf8.Piece}
    (h : ofPieces position pieces = .ok t) :
    (pieces.map fun | .point c => c | .flaw _ _ => CodePoint.replacement) = t := by
  induction pieces generalizing position t with
  | nil => exact Except.ok.inj h
  | cons piece pieces ih =>
    cases piece with
    | flaw why octets => cases h
    | point c =>
      obtain ⟨u, hu, h⟩ := Except.bind_eq_ok_iff.1 h
      rw [← Except.ok.inj h, List.map_cons, ih hu]

/-- Where nothing has to be replaced, octets are read as they are decoded. -/
theorem decodeReplacing_of_decode (h : decode bytes = .ok t) : decodeReplacing bytes = t :=
  map_of_ofPieces h

end Text

end GoLexicon
