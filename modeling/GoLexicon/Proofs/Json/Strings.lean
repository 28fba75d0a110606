import GoLexicon.Json.Printer
import GoLexicon.Json.Reader
import GoLexicon.Proofs.Text.Utf8
/-!
# Strings in JSON

Between the quotes of a string each character stands for itself, or for the character that it
escapes (`Json.Stands`). A text can be written in many ways (`Json.Spells`), and it is read from each
of them (`Json.content_of_spells`). One of them is what the printer writes, whichever characters it
leaves as they are (`Json.spells_inString`).
-/

namespace GoLexicon.Json

/-! ## How a text is written -/

/-- Four hexadecimal digits write a number. -/
inductive IsUnit : Nat → Text → Prop where
  | digits {a b c d : CodePoint} {x y z w : Nat} (ha : a.hexValue? = some x)
      (hb : b.hexValue? = some y) (hc : c.hexValue? = some z) (hd : d.hexValue? = some w) :
      IsUnit (((x * 16 + y) * 16 + z) * 16 + w) [a, b, c, d]

/-- The escape of a code unit with some digits. -/
def unitEscape (u : Text) : Text := '\\' :: 'u' :: u

/-- Inside a string a text stands for a character. -/
inductive Stands : CodePoint → Text → Prop where
  | itself {c : CodePoint} (control : 0x20 ≤ c.val) (quote : c ≠ '"') (backslash : c ≠ '\\') :
      Stands c [c]
  | letter {c e : CodePoint} (h : escaped? e = some c) : Stands c ['\\', e]
  | unit {c : CodePoint} {u : Text} (hu : IsUnit c.val u) (scalar : c.isSurrogate = false) :
      Stands c (unitEscape u)
  /-- Beyond the first plane, two halves. -/
  | pair {c : CodePoint} {high low : Nat} {u v : Text} (hu : IsUnit high u) (hv : IsUnit low v)
      (hhigh : 0xD800 ≤ high ∧ high < 0xDC00) (hlow : 0xDC00 ≤ low ∧ low < 0xE000)
      (hc : c.val = 0x10000 + (high - 0xD800) * 0x400 + (low - 0xDC00)) :
      Stands c (unitEscape u ++ unitEscape v)

/-- Between the quotes of a string the second text writes the first one. -/
inductive Spells : Text → Text → Prop where
  | nil : Spells [] []
  | cons {c : CodePoint} {t u v : Text} (h : Stands c u) (ht : Spells t v) :
      Spells (c :: t) (u ++ v)

/-! ## Reading -/

section reading

variable {c d e : CodePoint} {n : Nat} {t u rest : Text} {k : Content}

theorem codeUnit?_of_isUnit (h : IsUnit n u) (hrest : rest ≠ []) :
    codeUnit? (u ++ rest) = some n := by
  cases h with
  | digits ha hb hc hd =>
    cases rest with
    | nil => exact absurd rfl hrest
    | cons r rest => simp [codeUnit?, ha, hb, hc, hd]

theorem length_of_isUnit (h : IsUnit n u) : u.length = 4 := by
  cases h
  rfl

theorem ofChar_u_ne_of_escaped? (h : escaped? e = some d) : e ≠ CodePoint.ofChar 'u' := by
  have none : escaped? (CodePoint.ofChar 'u') = none := by decide
  rintro rfl
  exact nomatch none.symm.trans h

theorem content_quote (rest : Text) :
    content (CodePoint.ofChar '"' :: rest) = .ok ⟨[], 1, false⟩ := by
  rw [content.eq_def]
  simp

theorem content_itself (control : 0x20 ≤ c.val) (quote : c ≠ '"') (backslash : c ≠ '\\')
    (h : content rest = .ok k) : content (c :: rest) = .ok (k.push c 1) := by
  rw [content.eq_def]
  simp [quote, backslash, Nat.not_lt.2 control, h, Except.map]

/-- Behind a backslash it depends on the next character how the string goes on. -/
theorem content_backslash (he : escaped? e = some d) (h : content rest = .ok k) :
    content ('\\' :: e :: rest) = .ok (k.push d 2) := by
  have quote : CodePoint.ofChar '\\' ≠ CodePoint.ofChar '"' := by decide
  have control : ¬ (CodePoint.ofChar '\\').val < 0x20 := by decide
  rw [content.eq_def]
  simp [quote, control, ofChar_u_ne_of_escaped? he, he, h, Except.map]

theorem content_unitEscape (hu : IsUnit n u) (h : content rest = .ok k) :
    content (unitEscape u ++ rest) =
      .ok ⟨joinUnit n k.headIsUnit k.text, k.size + 6, true⟩ := by
  have quote : CodePoint.ofChar '\\' ≠ CodePoint.ofChar '"' := by decide
  have control : ¬ (CodePoint.ofChar '\\').val < 0x20 := by decide
  have hrest : rest ≠ [] := by
    rintro rfl
    exact nomatch h
  have hunit := codeUnit?_of_isUnit hu hrest
  cases hu with
  | digits ha hb hc hd =>
    rw [unitEscape, List.cons_append, List.cons_append, content.eq_def]
    simp only [List.cons_append, List.nil_append] at hunit ⊢
    simp [quote, control, hunit, h, Except.map]

theorem joinUnit_of_not_high (h : n < 0xD800 ∨ 0xDC00 ≤ n) (headIsUnit : Bool) (t : Text) :
    joinUnit n headIsUnit t = CodePoint.ofNat n :: t := by
  cases t with
  | nil => rfl
  | cons low t =>
    have hn : ¬ (0xD800 ≤ n ∧ n < 0xDC00) := by omega
    rw [joinUnit, if_neg (by simp; omega)]

theorem joinUnit_of_high {low : Nat} (hhigh : 0xD800 ≤ n ∧ n < 0xDC00)
    (hlow : 0xDC00 ≤ low ∧ low < 0xE000) (t : Text) :
    joinUnit n true (CodePoint.ofNat low :: t) =
      CodePoint.ofNat (0x10000 + (n - 0xD800) * 0x400 + (low - 0xDC00)) :: t := by
  have hv : (CodePoint.ofNat low).val = low := CodePoint.val_ofNat (by omega)
  rw [joinUnit, if_pos (by simp [hv]; omega), hv]

/-- What stands for a character is read as it, whatever is behind. -/
theorem content_of_stands (hu : Stands c u) (h : content rest = .ok k) :
    ∃ b, content (u ++ rest) = .ok ⟨c :: k.text, k.size + u.length, b⟩ := by
  cases hu with
  | itself control quote backslash => exact ⟨false, content_itself control quote backslash h⟩
  | letter he => exact ⟨false, content_backslash he h⟩
  | unit hunit scalar =>
    have whole : ¬ (0xD800 ≤ c.val ∧ c.val < 0xE000) := by
      simpa [CodePoint.isSurrogate] using scalar
    refine ⟨true, (content_unitEscape hunit h).trans ?_⟩
    rw [joinUnit_of_not_high (by omega), CodePoint.ofNat_val, unitEscape, List.length_cons,
      List.length_cons, length_of_isUnit hunit]
  | @pair high low u v hu hv hhigh hlow hc =>
    have second := content_unitEscape hv h
    rw [joinUnit_of_not_high (.inr hlow.1)] at second
    refine ⟨true, ?_⟩
    rw [List.append_assoc, content_unitEscape hu second, joinUnit_of_high hhigh hlow, ← hc,
      CodePoint.ofNat_val, List.length_append, unitEscape, unitEscape, List.length_cons,
      List.length_cons, List.length_cons, List.length_cons, length_of_isUnit hu,
      length_of_isUnit hv]

/-- A text is read from whatever writes it, up to the quote. -/
theorem content_of_spells (h : Spells t u) (rest : Text) :
    ∃ b, content (u ++ CodePoint.ofChar '"' :: rest) = .ok ⟨t, u.length + 1, b⟩ := by
  induction h with
  | nil => exact ⟨false, content_quote rest⟩
  | @cons c t u v hc ht ih =>
    obtain ⟨b, hb⟩ := ih
    obtain ⟨b', hb'⟩ := content_of_stands hc hb
    have size : v.length + 1 + u.length = (u ++ v).length + 1 := by
      rw [List.length_append]
      omega
    exact ⟨b', by rw [List.append_assoc, hb', size]⟩

/-! Between the quotes no control stands, and beyond ASCII only what stands for itself. -/

theorem bounds_of_hexValue? (h : c.hexValue? = some n) : 0x20 ≤ c.val ∧ c.val < 0x80 := by
  unfold CodePoint.hexValue? CodePoint.isDigit at h
  grind

theorem bounds_of_escaped? (h : escaped? e = some d) : 0x20 ≤ e.val ∧ e.val < 0x80 := by
  have letters : ['"', '\\', '/', 'b', 'f', 'n', 'r', 't'].all
      (fun x => 0x20 ≤ (CodePoint.ofChar x).val && (CodePoint.ofChar x).val < 0x80) = true := by
    decide
  simp only [List.all_cons, Bool.and_eq_true, decide_eq_true_eq] at letters
  unfold escaped? at h
  grind

theorem bounds_of_mem_unitEscape (hu : IsUnit n u) (hc : c ∈ unitEscape u) :
    0x20 ≤ c.val ∧ c.val < 0x80 := by
  cases hu with
  | digits hx hy hz hw =>
    simp only [unitEscape, List.mem_cons, List.not_mem_nil, or_false] at hc
    rcases hc with rfl | rfl | rfl | rfl | rfl | rfl
    · decide
    · decide
    · exact bounds_of_hexValue? hx
    · exact bounds_of_hexValue? hy
    · exact bounds_of_hexValue? hz
    · exact bounds_of_hexValue? hw

theorem bounds_of_mem_stands (hu : Stands d u) (hc : c ∈ u) :
    0x20 ≤ c.val ∧ (c.val < 0x80 ∨ c = d) := by
  cases hu with
  | itself control quote backslash =>
    obtain rfl := List.mem_singleton.1 hc
    exact ⟨control, .inr rfl⟩
  | letter he =>
    simp only [List.mem_cons, List.not_mem_nil, or_false] at hc
    rcases hc with rfl | rfl
    · exact ⟨by decide, .inl (by decide)⟩
    · exact (bounds_of_escaped? he).imp_right .inl
  | unit hu scalar => exact (bounds_of_mem_unitEscape hu hc).imp_right .inl
  | pair hu hv hhigh hlow hd =>
    rcases List.mem_append.1 hc with hc | hc
    · exact (bounds_of_mem_unitEscape hu hc).imp_right .inl
    · exact (bounds_of_mem_unitEscape hv hc).imp_right .inl

theorem bounds_of_mem_spells (h : Spells t u) (hc : c ∈ u) :
    0x20 ≤ c.val ∧ (c.val < 0x80 ∨ c ∈ t) := by
  induction h with
  | nil => exact absurd hc List.not_mem_nil
  | cons hd ht ih =>
    rcases List.mem_append.1 hc with hc | hc
    · refine (bounds_of_mem_stands hd hc).imp_right (Or.imp_right fun h => ?_)
      exact h ▸ List.mem_cons_self
    · exact (ih hc).imp_right (Or.imp_right (List.mem_cons_of_mem _))

/-- What spells a text has no surrogate if the text has none. -/
theorem isScalar_of_spells (h : Spells t u) (scalar : t.IsScalar) : u.IsScalar := by
  intro c hc
  obtain hascii | hmem := (bounds_of_mem_spells h hc).2
  · exact CodePoint.isSurrogate_eq_false (.inl (by omega))
  · exact scalar c hmem

end reading

/-! ## Writing -/

section writing

variable {c : CodePoint} {n : Nat}

theorem hexValue?_digitChar {d : Nat} (h : d < 16) :
    (CodePoint.ofChar d.digitChar).hexValue? = some d := by
  revert d
  decide

/-- The last digit of a number that is written with at least two. -/
theorem hex_add_two (width n : Nat) : Text.hex (width + 2) n =
    Text.hex (width + 1) (n / 16) ++ [CodePoint.ofChar (n % 16).digitChar] := by
  unfold Text.hex
  rcases Nat.lt_or_ge n 16 with h | h
  · have hdiv : n / 16 = 0 := Nat.div_eq_of_lt h
    rw [hdiv, Nat.toDigits_of_lt_base h, Nat.toDigits_of_lt_base (n := 0) (by omega),
      Nat.mod_eq_of_lt h]
    simp [List.replicate_succ', Nat.digitChar]
  · rw [Nat.toDigits_of_base_le (by omega) h]
    simp

theorem hex_one (h : n < 16) : Text.hex 1 n = [CodePoint.ofChar n.digitChar] := by
  simp [Text.hex, Nat.toDigits_of_lt_base h]

theorem isUnit_hex (h : n < 0x10000) : IsUnit n (Text.hex 4 n) := by
  have digits : Text.hex 4 n = [CodePoint.ofChar (n / 16 / 16 / 16).digitChar,
      CodePoint.ofChar (n / 16 / 16 % 16).digitChar, CodePoint.ofChar (n / 16 % 16).digitChar,
      CodePoint.ofChar (n % 16).digitChar] := by
    rw [hex_add_two, hex_add_two, hex_add_two, hex_one (by omega)]
    rfl
  have value : ((n / 16 / 16 / 16 * 16 + n / 16 / 16 % 16) * 16 + n / 16 % 16) * 16 + n % 16 = n := by
    omega
  have written := IsUnit.digits (hexValue?_digitChar (d := n / 16 / 16 / 16) (by omega))
    (hexValue?_digitChar (d := n / 16 / 16 % 16) (by omega))
    (hexValue?_digitChar (d := n / 16 % 16) (by omega))
    (hexValue?_digitChar (d := n % 16) (by omega))
  rwa [value, ← digits] at written

theorem isUnit_escapedUnit (h : n < 0x10000) : ∃ u, IsUnit n u ∧ escapedUnit n = unitEscape u := by
  have start : Text.ofString "\\u" = ['\\', 'u'] := by decide
  exact ⟨_, isUnit_hex h, by rw [escapedUnit, start]; rfl⟩

theorem stands_escapedPoint (scalar : c.isSurrogate = false) : Stands c (escapedPoint c) := by
  have hc : c.val < 0x110000 := c.isLt
  unfold escapedPoint
  split
  · next h =>
    obtain ⟨u, hu, he⟩ := isUnit_escapedUnit h
    exact he ▸ .unit hu scalar
  · next h =>
    obtain ⟨u, hu, he⟩ := isUnit_escapedUnit (n := 0xD800 + (c.val - 0x10000) / 0x400) (by omega)
    obtain ⟨v, hv, he'⟩ := isUnit_escapedUnit (n := 0xDC00 + (c.val - 0x10000) % 0x400) (by omega)
    simp only [he, he']
    exact .pair hu hv (by omega) (by omega) (by omega)

/-- What the printer writes for a character stands for it. -/
theorem stands_inString (plain : CodePoint → Bool) (scalar : c.isSurrogate = false) :
    Stands c (inString plain c) := by
  unfold inString
  -- the characters that a letter escapes
  iterate 7
    split
    · next h => exact h ▸ .letter (by decide)
  split
  · exact stands_escapedPoint scalar
  · next quote backslash _ _ _ _ _ control =>
    simp only [Bool.or_eq_true, decide_eq_true_eq, not_or, Nat.not_lt] at control
    exact .itself control.1 quote backslash

/-- What the printer writes for a text spells it. -/
theorem spells_inString (plain : CodePoint → Bool) {t : Text} (scalar : t.IsScalar) :
    Spells t (t.flatMap (inString plain)) := by
  induction t with
  | nil => exact .nil
  | cons c t ih =>
    obtain ⟨hc, ht⟩ := List.forall_mem_cons.1 scalar
    rw [List.flatMap_cons]
    exact .cons (stands_inString plain hc) (ih ht)

end writing

end GoLexicon.Json
