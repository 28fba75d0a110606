import GoLexicon.Proofs.Json.Grammar
import GoLexicon.Proofs.Json.Members
import GoLexicon.Proofs.Json.Strings
import GoLexicon.Proofs.Text.Lines
import Mathlib.Data.List.Forall2
/-!
# Documents

A document of a value is a text that consists of the lexemes of the value, in order
(`Json.IsDocumentOf`). Blanks may stand anywhere between them, and each string may be written in any
way, so a value has many documents. What the printer writes is one of them
(`Json.isDocumentOf_writtenWith`), and it is another one when its line ends are written alike
(`Json.Consists.unifyNewlines`).

A plain value, which is made of texts, lists and objects, is read from each of its documents
(`Json.read_of_isDocumentOf`), because its lexemes write it (`Json.IsPlain.writes`).
-/

namespace GoLexicon.Json

/-! ## Lexemes in a text -/

/-- The characters that are lexemes of their own. -/
inductive IsMark : CodePoint → Lexeme → Prop where
  | openBrace : IsMark '\x7b' .openBrace
  | closeBrace : IsMark '\x7d' .closeBrace
  | openBracket : IsMark '[' .openBracket
  | closeBracket : IsMark ']' .closeBracket
  | comma : IsMark ',' .comma
  | colon : IsMark ':' .colon

/-- A text consists of some lexemes, in order, with any blanks around them. -/
inductive Consists : List Lexeme → Text → Prop where
  | nil : Consists [] []
  | blank {c : CodePoint} {ls : List Lexeme} {t : Text} (hc : isBlank c = true)
      (h : Consists ls t) : Consists ls (c :: t)
  | mark {c : CodePoint} {l : Lexeme} {ls : List Lexeme} {t : Text} (hc : IsMark c l)
      (h : Consists ls t) : Consists (l :: ls) (c :: t)
  | string {s u : Text} {ls : List Lexeme} {t : Text} (hs : Spells s u) (h : Consists ls t) :
      Consists (.string s :: ls) (CodePoint.ofChar '"' :: (u ++ CodePoint.ofChar '"' :: t))

section lexemes

variable {c : CodePoint} {l : Lexeme} {ls ls' : List Lexeme} {s t t' u : Text} {position : Nat}

theorem IsMark.lexeme_eq (h : IsMark c l) (rest : Text) : lexeme c rest = (l, 0) := by
  cases h <;> rfl

theorem IsMark.not_isBlank (h : IsMark c l) : isBlank c = false := by
  cases h <;> decide

theorem le_of_isBlank (h : isBlank c = true) : c.val ≤ 0x20 := by
  simp only [isBlank, Bool.or_eq_true, decide_eq_true_eq] at h
  obtain ((rfl | rfl) | rfl) | rfl := h <;> decide

theorem lexeme_quote_eq (t : Text) : lexeme '"' t = match content t with
    | .ok k => (.string k.text, k.size)
    | .error (trouble, offset) => (.brokenString trouble offset, 0) := rfl

theorem lexeme_quote (h : Spells s u) (rest : Text) :
    lexeme '"' (u ++ CodePoint.ofChar '"' :: rest) = (.string s, u.length + 1) := by
  obtain ⟨b, hb⟩ := content_of_spells h rest
  rw [lexeme_quote_eq, hb]

theorem tokensFrom_cons_of_blank (h : isBlank c = true) :
    tokensFrom position (c :: t) = tokensFrom (position + 1) t := by
  rw [tokensFrom, if_pos h]

theorem tokensFrom_cons {further : Nat} (h : isBlank c = false) (hl : lexeme c t = (l, further)) :
    tokensFrom position (c :: t) =
      ⟨l, position⟩ :: tokensFrom (position + 1 + further) (t.drop further) := by
  rw [tokensFrom, if_neg (by simp [h]), hl]

/-- The tokens of a text are the lexemes that it consists of. -/
theorem map_lexeme_tokensFrom (h : Consists ls t) (position : Nat) :
    (tokensFrom position t).map (·.lexeme) = ls := by
  induction h generalizing position with
  | nil => simp [tokensFrom]
  | blank hc _ ih => rw [tokensFrom_cons_of_blank hc, ih]
  | @mark c l ls t hc _ ih =>
    rw [tokensFrom_cons hc.not_isBlank (hc.lexeme_eq t), List.drop_zero, List.map_cons, ih]
  | @string s u ls t hs _ ih =>
    have behind : (u ++ CodePoint.ofChar '"' :: t).drop (u.length + 1) = t := by simp
    rw [tokensFrom_cons (by decide) (lexeme_quote hs t), behind, List.map_cons, ih]

namespace Consists

theorem append (h : Consists ls t) (h' : Consists ls' t') : Consists (ls ++ ls') (t ++ t') := by
  induction h with
  | nil => exact h'
  | blank hc _ ih => exact .blank hc ih
  | mark hc _ ih => exact .mark hc ih
  | string hs _ ih =>
    rw [List.cons_append, List.cons_append, List.append_assoc, List.cons_append]
    exact .string hs ih

theorem one_mark (hc : IsMark c l) : Consists [l] [c] := .mark hc .nil

theorem one_string (plain : CodePoint → Bool) (scalar : t.IsScalar) :
    Consists [.string t] (stringWritten plain t) := by
  have quote : Text.ofString "\"" = [CodePoint.ofChar '"'] := by decide
  rw [stringWritten, quote, List.append_assoc]
  exact .string (spells_inString plain scalar) .nil

/-- Lists of lexemes with a comma between neighbours, and their texts with one as well. -/
theorem joined {lss : List (List Lexeme)} {ts : List Text} (h : List.Forall₂ Consists lss ts) :
    Consists (List.intercalate [.comma] lss) (Text.joined ", " ts) := by
  have separator : Consists [.comma] (Text.ofString ", ") := by
    have comma : Text.ofString ", " = [CodePoint.ofChar ',', CodePoint.ofChar ' '] := by
      decide
    rw [comma]
    exact .mark .comma (.blank (by decide) .nil)
  induction h with
  | nil => exact .nil
  | cons hfirst hrest ih =>
    cases hrest with
    | nil =>
      rw [Text.joined, List.intercalate_singleton, List.intercalate_singleton]
      exact hfirst
    | cons =>
      rw [Text.joined, List.intercalate_cons_cons, List.intercalate_cons_cons]
      exact (hfirst.append separator).append ih

/-- The lexemes of a text do not depend on how its line ends are written: no string has one. -/
theorem unifyNewlines (h : Consists ls t) : Consists ls t.unifyNewlines := by
  induction h with
  | nil => exact .nil
  | @blank c ls t hc _ ih =>
    by_cases hreturn : c = '\r'
    · subst hreturn
      obtain h | h := Text.unifyNewlines_return_cases t
      · exact h ▸ ih
      · exact h ▸ .blank (by decide) ih
    · rw [Text.unifyNewlines_cons hreturn]
      exact .blank hc ih
  | @mark c l ls t hc _ ih =>
    have hreturn : c ≠ '\r' := by
      rintro rfl
      exact absurd hc.not_isBlank (by decide)
    rw [Text.unifyNewlines_cons hreturn]
    exact .mark hc ih
  | @string s u ls t hs _ ih =>
    have hreturn : CodePoint.ofChar '\r' ∉ u := fun h =>
      absurd (bounds_of_mem_spells hs h).1 (by decide)
    rw [Text.unifyNewlines_cons (by decide), Text.unifyNewlines_append hreturn,
      Text.unifyNewlines_cons (by decide)]
    exact .string hs ih

/-- No such text begins with a byte order mark. -/
theorem head?_ne_mark (h : Consists ls t) : t.head?.any (·.val = 0xFEFF) = false := by
  cases h with
  | nil => rfl
  | blank hc _ =>
    have small := le_of_isBlank hc
    rw [List.head?_cons, Option.any_some, decide_eq_false_iff_not]
    omega
  | mark hc _ => cases hc <;> rfl
  | string _ _ => rfl

/-- A text has no surrogate if no string in it has one. -/
theorem isScalar (h : Consists ls t) (scalar : ∀ s, .string s ∈ ls → s.IsScalar) :
    t.IsScalar := by
  induction h with
  | nil => exact nofun
  | blank hc _ ih =>
    have small := le_of_isBlank hc
    exact List.forall_mem_cons.2 ⟨CodePoint.isSurrogate_eq_false (.inl (by omega)), ih scalar⟩
  | @mark c l ls t hc _ ih =>
    have hmark : c.isSurrogate = false := by
      cases hc <;> exact CodePoint.isSurrogate_ofChar _
    exact List.forall_mem_cons.2 ⟨hmark, ih fun s hs => scalar s (List.mem_cons_of_mem _ hs)⟩
  | @string s u ls t hs _ ih =>
    have quote := CodePoint.isSurrogate_ofChar '"'
    have spelled := isScalar_of_spells hs (scalar s List.mem_cons_self)
    have behind := ih fun s hs => scalar s (List.mem_cons_of_mem _ hs)
    exact List.forall_mem_cons.2 ⟨quote, List.forall_mem_append.2
      ⟨spelled, List.forall_mem_cons.2 ⟨quote, behind⟩⟩⟩

end Consists

end lexemes

/-! ## The lexemes of a value -/

mutual

/-- The lexemes of a value. -/
def lexemes : Json → List Lexeme
  | null => [.scalar null]
  | bool b => [.scalar (bool b)]
  | integer n => [.scalar (integer n)]
  | number x => [.scalar (number x)]
  | text t => [.string t]
  | list items =>
    .openBracket :: (List.intercalate [.comma] (itemsLexemes items) ++ [.closeBracket])
  | object members =>
    .openBrace :: (List.intercalate [.comma] (membersLexemes members) ++ [.closeBrace])

/-- The lexemes of each value of a list. -/
def itemsLexemes : List Json → List (List Lexeme)
  | [] => []
  | v :: rest => lexemes v :: itemsLexemes rest

/-- The lexemes of each member of an object. -/
def membersLexemes : List (Text × Json) → List (List Lexeme)
  | [] => []
  | (name, v) :: rest => (.string name :: .colon :: lexemes v) :: membersLexemes rest

end

/-- A text is a document of a value. -/
def IsDocumentOf (document : Text) (v : Json) : Prop := Consists v.lexemes document

/-- A value is made of texts, lists and objects, at most so many of the latter inside each other. Its
texts have no lone surrogates, and the members of an object have different names. -/
inductive IsPlain : Nat → Json → Prop where
  | text {n : Nat} {t : Text} (scalar : t.IsScalar) : IsPlain n (.text t)
  | list {n : Nat} {items : List Json} (h : ∀ v ∈ items, IsPlain n v) : IsPlain (n + 1) (.list items)
  | object {n : Nat} {members : List (Text × Json)} (distinct : (members.map (·.1)).Nodup)
      (scalar : ∀ m ∈ members, m.1.IsScalar) (h : ∀ m ∈ members, IsPlain n m.2) :
      IsPlain (n + 1) (.object members)

/-! ## Writing -/

section writing

variable {n : Nat} {v : Json} (plain : CodePoint → Bool)

theorem forall₂_itemsWritten {items : List Json}
    (h : ∀ v ∈ items, IsDocumentOf (writtenWith plain v) v) :
    List.Forall₂ Consists (itemsLexemes items) (itemsWritten plain items) := by
  induction items with
  | nil => exact .nil
  | cons v items ih =>
    obtain ⟨hv, hitems⟩ := List.forall_mem_cons.1 h
    exact .cons hv (ih hitems)

theorem forall₂_membersWritten {members : List (Text × Json)}
    (scalar : ∀ m ∈ members, m.1.IsScalar)
    (h : ∀ m ∈ members, IsDocumentOf (writtenWith plain m.2) m.2) :
    List.Forall₂ Consists (membersLexemes members) (membersWritten plain members) := by
  have separator : Consists [.colon] (Text.ofString ": ") := by
    have colon : Text.ofString ": " = [CodePoint.ofChar ':', CodePoint.ofChar ' '] := by
      decide
    rw [colon]
    exact .mark .colon (.blank (by decide) .nil)
  induction members with
  | nil => exact .nil
  | cons m members ih =>
    obtain ⟨hname, hnames⟩ := List.forall_mem_cons.1 scalar
    obtain ⟨hv, hmembers⟩ := List.forall_mem_cons.1 h
    exact .cons (((Consists.one_string plain hname).append separator).append hv)
      (ih hnames hmembers)

/-- What is written of an object is a document of it, also where names are repeated. -/
theorem isDocumentOf_objectWritten {members : List (Text × Json)}
    (scalar : ∀ m ∈ members, m.1.IsScalar)
    (h : ∀ m ∈ members, IsDocumentOf (writtenWith plain m.2) m.2) :
    IsDocumentOf (writtenWith plain (.object members)) (.object members) := by
  have opened : Text.ofString "\x7b" = [CodePoint.ofChar '\x7b'] := by decide
  have closed : Text.ofString "\x7d" = [CodePoint.ofChar '\x7d'] := by decide
  unfold IsDocumentOf
  rw [writtenWith, lexemes, opened, closed, List.append_assoc]
  exact .mark .openBrace
    ((Consists.joined (forall₂_membersWritten plain scalar h)).append (.one_mark .closeBrace))

/-- What the printer writes is a document. -/
theorem isDocumentOf_writtenWith (h : IsPlain n v) : IsDocumentOf (writtenWith plain v) v := by
  induction h with
  | text scalar =>
    unfold IsDocumentOf
    rw [writtenWith, lexemes]
    exact .one_string plain scalar
  | list _ ih =>
    have opened : Text.ofString "[" = [CodePoint.ofChar '['] := by decide
    have closed : Text.ofString "]" = [CodePoint.ofChar ']'] := by decide
    unfold IsDocumentOf
    rw [writtenWith, lexemes, opened, closed, List.append_assoc]
    exact .mark .openBracket
      ((Consists.joined (forall₂_itemsWritten plain ih)).append (.one_mark .closeBracket))
  | object _ scalar _ ih => exact isDocumentOf_objectWritten plain scalar ih

end writing

/-! ## Reading -/

theorem itemsLexemes_eq_map (items : List Json) : itemsLexemes items = items.map lexemes := by
  induction items with
  | nil => rfl
  | cons v items ih => rw [itemsLexemes, ih, List.map_cons]

/-- The lexemes of a member of an object. -/
def memberLexemes (m : Text × Json) : List Lexeme := .string m.1 :: .colon :: m.2.lexemes

theorem membersLexemes_eq_map (members : List (Text × Json)) :
    membersLexemes members = members.map memberLexemes := by
  induction members with
  | nil => rfl
  | cons m members ih => rw [membersLexemes, ih, List.map_cons, memberLexemes]

section members

variable {members : List (Text × Json)}

theorem map_fst_withLexemes : (members.map fun m => (m, m.2.lexemes)).map (·.1) = members := by
  simp [Function.comp_def]

theorem map_lexemesOfMember :
    (members.map fun m => (m, m.2.lexemes)).map lexemesOfMember = members.map memberLexemes :=
  List.map_map

end members

/-- The lexemes of a plain value write it. -/
theorem IsPlain.writes {n : Nat} {v : Json} (h : IsPlain n v) : Writes n v v.lexemes := by
  induction h with
  | text =>
    rw [lexemes]
    exact .text _
  | @list n items _ ih =>
    have written := Writes.list (items.map fun v => (v, v.lexemes)) (by simpa using ih)
    rw [lexemes, itemsLexemes_eq_map]
    simpa [Function.comp_def] using written
  | @object n members distinct _ _ ih =>
    have written := Writes.object (members.map fun m => (m, m.2.lexemes))
      (List.forall_mem_map.2 ih)
    rw [map_fst_withLexemes, map_lexemesOfMember, ofMembers_of_nodup distinct] at written
    rw [lexemes, membersLexemes_eq_map]
    exact written

/-- What is between brackets, and is no comma, is in one of the parts. -/
theorem exists_part_of_mem {l opened closed : Lexeme} {parts : List (List Lexeme)}
    (h : l ∈ opened :: (List.intercalate [.comma] parts ++ [closed]))
    (hl : l ∉ [opened, .comma, closed]) : ∃ part ∈ parts, l ∈ part := by
  simp only [List.mem_cons, List.not_mem_nil, or_false, not_or] at hl
  obtain ⟨hopened, hcomma, hclosed⟩ := hl
  rw [List.mem_cons, List.mem_append, List.mem_singleton] at h
  obtain h := (h.resolve_left hopened).resolve_right hclosed
  exact (mem_intercalate _ h).resolve_left fun h => hcomma (List.mem_singleton.1 h)

theorem isScalar_of_mem_objectLexemes {members : List (Text × Json)}
    (scalar : ∀ m ∈ members, m.1.IsScalar)
    (h : ∀ m ∈ members, ∀ s, .string s ∈ m.2.lexemes → s.IsScalar) :
    ∀ s, .string s ∈ (object members).lexemes → s.IsScalar := by
  intro s hs
  rw [lexemes, membersLexemes_eq_map] at hs
  obtain ⟨part, hpart, hs⟩ := exists_part_of_mem hs (by simp)
  obtain ⟨m, hm, rfl⟩ := List.mem_map.1 hpart
  simp only [memberLexemes, List.mem_cons, reduceCtorEq, false_or, Lexeme.string.injEq] at hs
  obtain rfl | hs := hs
  · exact scalar m hm
  · exact h m hm s hs

/-- The strings of a plain value have no surrogates. -/
theorem IsPlain.isScalar_of_mem_lexemes {n : Nat} {v : Json} (h : IsPlain n v) :
    ∀ s, .string s ∈ v.lexemes → s.IsScalar := by
  induction h with
  | text scalar =>
    intro s hs
    rw [lexemes, List.mem_singleton] at hs
    cases hs
    exact scalar
  | @list n items _ ih =>
    intro s hs
    rw [lexemes, itemsLexemes_eq_map] at hs
    obtain ⟨part, hpart, hs⟩ := exists_part_of_mem hs (by simp)
    obtain ⟨v, hv, rfl⟩ := List.mem_map.1 hpart
    exact ih v hv s hs
  | object _ scalar _ ih => exact isScalar_of_mem_objectLexemes scalar ih

/-- No document of a plain value has a surrogate. -/
theorem IsPlain.isScalar_of_isDocumentOf {n : Nat} {v : Json} {document : Text}
    (h : IsPlain n v) (hdocument : IsDocumentOf document v) : document.IsScalar := by
  exact hdocument.isScalar h.isScalar_of_mem_lexemes

/-- A plain value is read from each of its documents. -/
theorem read_of_isDocumentOf {depth n : Nat} {document : Text} {v : Json} (h : IsPlain n v)
    (enough : n ≤ depth) (hdocument : IsDocumentOf document v) : read depth document = .ok v := by
  refine read_of_writes enough hdocument.head?_ne_mark ?_
  rw [tokens, map_lexeme_tokensFrom hdocument]
  exact h.writes

/-- A document of an object holds its members, also where names are repeated. -/
theorem IsDocumentOf.holdsObject {document : Text} {members : List (Text × Json)}
    (hdocument : IsDocumentOf document (.object members))
    (h : ∀ m ∈ members, IsPlain (nestingLimit - 1) m.2) : HoldsObject document members where
  mark := hdocument.head?_ne_mark
  writes := by
    refine ⟨members.map fun m => (m, m.2.lexemes), map_fst_withLexemes,
      List.forall_mem_map.2 fun m hm => (h m hm).writes, ?_⟩
    rw [tokens, map_lexeme_tokensFrom hdocument, lexemes, membersLexemes_eq_map,
      map_lexemesOfMember]

end GoLexicon.Json
