import GoLexicon.Proofs.Console.Escaping
import GoLexicon.Proofs.Progress.Misuse
/-!
# Labels are no markup

A label is a text in the colour of a state, and its one active tag is the one in front of it, which
names this colour. Whatever the text is, each tag in it is escaped, and the text is what is left
when the escapes are taken away (`Progress.labels_are_no_markup`).

Whatever is called on a display, in whatever order, the labels on its board are such texts
(`Progress.Display.areLabelled_behind`).
-/

namespace GoLexicon.Progress

/-! ## The labels of a board -/

/-- The label of a task is a text in the colour of a state. -/
def Task.IsLabelled (task : Task) : Prop := ∃ s t, task.label = styled s t

namespace Board

variable {b b' : Board}

theorem areLabelled_create (h : ∀ task ∈ b, task.IsLabelled) (text : Text) (total : Option Int) :
    ∀ task ∈ b.create text total, task.IsLabelled := by
  refine List.forall_mem_append.2 ⟨h, List.forall_mem_singleton.2 ?_⟩
  exact ⟨.inProgress, text, rfl⟩

theorem areLabelled_of_update {n : Int} {change : Task → Task} (h : b.update n change = .ok b')
    (labelled : ∀ task ∈ b, task.IsLabelled)
    (hchange : ∀ task, task.IsLabelled → (change task).IsLabelled) :
    ∀ task ∈ b', task.IsLabelled := by
  unfold update at h
  split at h
  · split at h
    · obtain rfl := Except.ok.inj h
      intro task htask
      obtain ⟨i, hi⟩ := List.mem_iff_getElem?.1 htask
      rw [List.getElem?_modify] at hi
      obtain ⟨old, hold, rfl⟩ := Option.map_eq_some_iff.1 hi
      have before : old.IsLabelled := labelled old (List.mem_of_getElem? hold)
      split
      · exact hchange old before
      · exact before
    · cases h
  · cases h

theorem areLabelled_of_set {n : Int} {s : TaskState} {text : Text} {completed total : Option Int}
    (h : b.set n s text completed total = .ok b') (labelled : ∀ task ∈ b, task.IsLabelled) :
    ∀ task ∈ b', task.IsLabelled :=
  areLabelled_of_update h labelled fun _ _ => ⟨s, text, rfl⟩

theorem areLabelled_of_advance {n steps : Int} (h : b.advance n steps = .ok b')
    (labelled : ∀ task ∈ b, task.IsLabelled) : ∀ task ∈ b', task.IsLabelled :=
  areLabelled_of_update h labelled fun _ => id

end Board

/-! ## The labels of a display -/

namespace Display

variable {d d' : Display}

/-- All labels on the board are texts in the colours of states. -/
def AreLabelled (d : Display) : Prop :=
  ∀ board, d.board = some board → ∀ task ∈ board, task.IsLabelled

theorem AreLabelled.onTask {event : Text} {change : Board → Int → Except Fault Board}
    (h : d.onTask event change = .ok d') (labelled : d.AreLabelled)
    (hchange : ∀ b n b', change b n = .ok b' → (∀ task ∈ b, task.IsLabelled) →
      ∀ task ∈ b', task.IsLabelled) : d'.AreLabelled := by
  unfold Display.onTask at h
  split at h
  · next board task hboard _ =>
    cases hb : change board task with
    | error fault =>
      rw [hb] at h
      cases h
    | ok b' =>
      rw [hb] at h
      obtain rfl := Except.ok.inj h
      rintro _ ⟨rfl⟩
      exact hchange board task b' hb (labelled board hboard)
  · cases h

theorem AreLabelled.leave {failed : Bool} (h : d.leave failed = .ok d')
    (labelled : d.AreLabelled) : d'.AreLabelled := by
  unfold Display.leave at h
  split at h
  · next board task hboard _ =>
    split at h
    · cases hb : board.set task .error abortLabel none none with
      | error fault =>
        rw [hb] at h
        cases h
      | ok b' =>
        rw [hb] at h
        obtain rfl := Except.ok.inj h
        rintro _ ⟨rfl⟩
        exact Board.areLabelled_of_set hb (labelled board hboard)
    · exact Except.ok.inj h ▸ labelled
  · exact Except.ok.inj h ▸ labelled

/-- A call keeps labels that are texts in the colours of states, and adds no other ones. -/
theorem AreLabelled.call {c : Call} (h : d.call c = .ok d') (labelled : d.AreLabelled) :
    d'.AreLabelled := by
  cases c with
  | enter =>
    obtain rfl := Except.ok.inj h
    rintro _ ⟨rfl⟩
    exact List.forall_mem_nil _
  | leave failed => exact labelled.leave h
  | start =>
    change d.start = .ok d' at h
    unfold start at h
    split at h
    · cases h
    · next board hboard =>
      obtain rfl := Except.ok.inj h
      rintro _ ⟨rfl⟩
      exact Board.areLabelled_create (labelled board hboard) _ _
  | packageStarted importPath =>
    rw [Display.call, packageStarted] at h
    exact labelled.onTask h fun _ _ _ => Board.areLabelled_of_set
  | packageFinished =>
    rw [Display.call, packageFinished] at h
    exact labelled.onTask h fun _ _ _ => Board.areLabelled_of_advance
  | finish packages words =>
    rw [Display.call, finish] at h
    exact labelled.onTask h fun _ _ _ => Board.areLabelled_of_set

theorem AreLabelled.next (labelled : d.AreLabelled) (c : Call) : (d.next c).AreLabelled := by
  unfold Display.next
  cases h : d.call c with
  | error fault => exact labelled
  | ok d' => exact labelled.call h

/-- Whatever is called on a display, all its labels are texts in the colours of states. -/
theorem areLabelled_behind (calls : List Call) : (fresh.behind calls).AreLabelled := by
  have kept : ∀ (calls : List Call) (d : Display), d.AreLabelled →
      (d.behind calls).AreLabelled := by
    intro calls
    induction calls with
    | nil => exact fun _ => id
    | cons c calls ih => exact fun d labelled => ih (d.next c) (labelled.next c)
  exact kept calls fresh nofun

end Display

/-! ## The tags of a label -/

open Markup

/-- The tag in front of a label. -/
def TaskState.tag (s : TaskState) : Text := "[" ++ s.colour ++ "]"

theorem isTag_tag (s : TaskState) : IsTag s.tag := by
  cases s
  · exact ⟨CodePoint.ofChar 'm', "agenta", by decide, by decide, by decide⟩
  · exact ⟨CodePoint.ofChar 'g', "reen", by decide, by decide, by decide⟩
  · exact ⟨CodePoint.ofChar 'r', "ed", by decide, by decide, by decide⟩

/-- The tag in front of a label holds no other bracket that could open one, and ends in none that
could be escaped. -/
theorem exists_tag_eq (s : TaskState) : ∃ name, s.tag =
    CodePoint.ofChar '[' :: (name ++ [CodePoint.ofChar ']']) ∧ CodePoint.ofChar '[' ∉ name := by
  obtain ⟨c, inner, h, hc, hinner⟩ := isTag_tag s
  refine ⟨c :: inner, h, List.not_mem_cons_of_ne_of_not_mem ?_ hinner⟩
  rintro rfl
  exact absurd hc (by decide)

/-- **Labels are no markup**: a label begins with the tag that names the colour of its state, and
each other tag in it has an odd number of backslashes in front of it. Behind the first tag stands a
text that is the given one when the escapes are taken away, and at the end one more backslash where
the given text ends in a single one. The labels on the board of a display are such labels, whatever
is called on it. -/
theorem labels_are_no_markup (s : TaskState) (t : Text) :
    (∃ escaped, styled s t =
        s.tag ++ escaped ++ (if endsInOneBackslash t then backslashes 1 else []) ∧
      unescape escaped = t) ∧
    IsTag s.tag ∧
    (∀ before tag after, styled s t = before ++ tag ++ after → IsTag tag →
      before = [] ∨ endingSlashes before % 2 = 1) ∧
    ∀ calls board, (Display.fresh.behind calls).board = some board →
      ∀ task ∈ board, ∃ s' t', task.label = styled s' t' := by
  refine ⟨⟨escapeFrom 0 t, ?_, unescape_escapeFrom 0 t⟩, isTag_tag s, ?_,
    Display.areLabelled_behind⟩
  · rw [List.append_assoc, ← escape_eq]
    rfl
  · intro before tag after h htag
    obtain ⟨rest, hrest⟩ : ∃ rest, tag ++ after = CodePoint.ofChar '[' :: rest := by
      obtain ⟨c, inner, rfl, -⟩ := htag
      exact ⟨_, rfl⟩
    have opens : opensTag rest = true := opensTag_iff.2 ⟨tag, after, hrest.symm, htag⟩
    rw [List.append_assoc, hrest] at h
    cases before with
    | nil => exact .inl rfl
    | cons c before =>
      -- the tag stands behind the first one, so it is a tag of the escaped text
      obtain ⟨name, hname, noBracket⟩ := exists_tag_eq s
      have whole : styled s t = CodePoint.ofChar '[' ::
          ((name ++ [CodePoint.ofChar ']']) ++ escape t) := by
        change s.tag ++ escape t = _
        rw [hname]
        rfl
      obtain ⟨rfl, hbehind⟩ := List.cons.inj (whole.symm.trans h)
      have closing : CodePoint.ofChar '[' ∉ name ++ [CodePoint.ofChar ']'] := by
        have other : CodePoint.ofChar '[' ≠ CodePoint.ofChar ']' := by decide
        simpa [other] using noBracket
      obtain ⟨inner, rfl, hescape⟩ := exists_of_append_eq hbehind closing
      have last : CodePoint.ofChar ']' ≠ CodePoint.ofChar '\\' := by decide
      right
      rw [List.append_assoc, List.singleton_append, ← List.cons_append,
        endingSlashes_append_cons last]
      exact odd_of_escape_eq hescape opens

/-- A label with a tag behind a backslash, an open bracket and a single backslash at the end, and
the label of a package whose import path is a tag. -/
theorem labels_are_no_markup_nested :
    styled .inProgress "\\[b]a[\\" = "[magenta]\\\\\\[b]a[\\\\" ∧
    IsTag "[b]" ∧
    (Text.ofString "[magenta]\\\\\\" = [] ∨ endingSlashes "[magenta]\\\\\\" % 2 = 1) ∧
    (Display.fresh.behind [.enter, .start, .packageStarted "[b]"]).board =
      some [⟨"[magenta]Scanning \\[b]", 0, none⟩] ∧
    ∃ s' t', Text.ofString "[magenta]Scanning \\[b]" = styled s' t' := by
  have shown : styled .inProgress "\\[b]a[\\" = "[magenta]\\\\\\[b]a[\\\\" := by decide +kernel
  have tag : IsTag "[b]" := ⟨CodePoint.ofChar 'b', [], by decide, by decide, by simp⟩
  have split : styled .inProgress "\\[b]a[\\" =
      Text.ofString "[magenta]\\\\\\" ++ Text.ofString "[b]" ++ Text.ofString "a[\\\\" := by
    decide +kernel
  have board : (Display.fresh.behind [.enter, .start, .packageStarted "[b]"]).board =
      some [⟨"[magenta]Scanning \\[b]", 0, none⟩] := by decide +kernel
  obtain ⟨-, -, escaped, labelled⟩ := labels_are_no_markup .inProgress "\\[b]a[\\"
  exact ⟨shown, tag, escaped _ _ _ split tag, board,
    labelled _ _ board _ (List.mem_singleton_self _)⟩

end GoLexicon.Progress
