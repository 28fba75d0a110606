import GoLexicon.Progress.Display
import Mathlib.Data.List.Basic
import Mathlib.Data.List.Induction
/-!
# Misuse of a display

A display may be called in any order, and again after it has been left. What it does then depends on
three things in the calls so far: whether it has ever been entered, whether a scan has ever started
on it, and whether one has started since it was entered last (`Progress.Display.Reflects`). Leaving
it changes none of them.

So misuse is caught as it should be until the display is left for the first time. From then on a
scan can start outside of the context; and where the display has been entered again, the task of an
earlier scan is looked for on a board that does not have it, also while a failure passes through
(`Progress.Display.misuse_of_calls`).
-/

namespace GoLexicon.Progress

/-- A call on a display. -/
inductive Call where
  | enter
  | leave (failed : Bool)
  | start
  | packageStarted (importPath : Text)
  | packageFinished
  | finish (packages words : Int)
  deriving DecidableEq

namespace Call

/-- The name of the event that a call tells of, where it is one that comes behind the start. -/
def event? : Call → Option Text
  | packageStarted _ => some "package_started"
  | packageFinished => some "package_finished"
  | finish _ _ => some "scan_finished"
  | _ => none

/-! ## The calls so far -/

/-- The context was entered at some time, and the calls since then are as told. -/
def EnteredThen (told : List Call → Prop) (calls : List Call) : Prop :=
  ∃ before after, calls = before ++ .enter :: after ∧ told after

/-- The context is entered, and has not been left. -/
def IsInside (calls : List Call) : Prop :=
  EnteredThen (fun after => ∀ failed, .leave failed ∉ after) calls

/-- A scan has started inside of the present context. -/
def HasStartedInside (calls : List Call) : Prop :=
  EnteredThen (fun after => .enter ∉ after ∧ (∀ failed, .leave failed ∉ after) ∧ .start ∈ after)
    calls

/-- A scan has started since the context was entered for the first time. -/
def HasStarted (calls : List Call) : Prop := EnteredThen (.start ∈ ·) calls

/-- A scan has started since the context was entered for the last time. -/
def HasStartedLately (calls : List Call) : Prop :=
  EnteredThen (fun after => .enter ∉ after ∧ .start ∈ after) calls

/-- A call that should be refused: a scan starts outside of the context, or another event comes and
no scan has started inside of it. -/
def IsMisuse (calls : List Call) (c : Call) : Prop :=
  c = .start ∧ ¬ IsInside calls ∨ c.event? ≠ none ∧ ¬ HasStartedInside calls

/-- The context is entered and left in turns. -/
def TakeTurns (inside : Bool) : List Call → Prop
  | [] => True
  | .enter :: rest => inside = false ∧ TakeTurns true rest
  | .leave _ :: rest => inside = true ∧ TakeTurns false rest
  | _ :: rest => TakeTurns inside rest

section calls

variable {told told' : List Call → Prop} {calls : List Call} {c : Call}

theorem enteredThen_concat : EnteredThen told (calls ++ [c]) ↔
    c = .enter ∧ told [] ∨ EnteredThen (fun after => told (after ++ [c])) calls := by
  constructor
  · rintro ⟨before, after, h, hafter⟩
    obtain rfl | ⟨after, last, rfl⟩ := List.eq_nil_or_concat' after
    · obtain ⟨-, hc⟩ := List.append_inj' h rfl
      exact .inl ⟨List.singleton_inj.1 hc, hafter⟩
    · rw [← List.cons_append, ← List.append_assoc] at h
      obtain ⟨rfl, hc⟩ := List.append_inj' h rfl
      obtain rfl := List.singleton_inj.1 hc
      exact .inr ⟨before, after, rfl, hafter⟩
  · rintro (⟨rfl, h⟩ | ⟨before, after, rfl, h⟩)
    · exact ⟨calls, [], rfl, h⟩
    · exact ⟨before, after ++ [c], by simp, h⟩

theorem EnteredThen.mono (h : EnteredThen told calls) (imp : ∀ after, told after → told' after) :
    EnteredThen told' calls := by
  obtain ⟨before, after, hcalls, hafter⟩ := h
  exact ⟨before, after, hcalls, imp after hafter⟩

theorem EnteredThen.mem (h : EnteredThen told calls) : .enter ∈ calls := by
  obtain ⟨before, after, rfl, -⟩ := h
  simp

theorem HasStartedLately.hasStarted (h : HasStartedLately calls) : HasStarted calls :=
  h.mono fun _ hafter => hafter.2

theorem HasStartedInside.hasStartedLately (h : HasStartedInside calls) : HasStartedLately calls :=
  h.mono fun _ hafter => ⟨hafter.1, hafter.2.2⟩

/-- There is a last time that the context was entered. -/
theorem enteredThen_not_mem (h : .enter ∈ calls) : EnteredThen (.enter ∉ ·) calls := by
  induction calls using List.reverseRecOn with
  | nil => exact absurd h List.not_mem_nil
  | append_singleton calls c ih =>
    rw [enteredThen_concat]
    by_cases hc : c = .enter
    · exact .inl ⟨hc, List.not_mem_nil⟩
    · have earlier : .enter ∈ calls := by simpa [Ne.symm hc] using h
      exact .inr ((ih earlier).mono fun after hafter => by simp [hafter, Ne.symm hc])

/-! What one more call does to what there was so far. -/

theorem hasStarted_concat_start : HasStarted (calls ++ [.start]) ↔ .enter ∈ calls := by
  rw [HasStarted, enteredThen_concat]
  refine ⟨?_, fun h => .inr ((enteredThen_not_mem h).mono fun after _ => by simp)⟩
  rintro (⟨⟨⟩, -⟩ | h)
  exact h.mem

theorem hasStartedLately_concat_start : HasStartedLately (calls ++ [.start]) ↔ .enter ∈ calls := by
  rw [HasStartedLately, enteredThen_concat]
  refine ⟨?_, fun h => .inr ((enteredThen_not_mem h).mono fun after hafter => by simp [hafter])⟩
  rintro (⟨⟨⟩, -⟩ | h)
  exact h.mem

theorem hasStarted_concat (h : c ≠ .start) : HasStarted (calls ++ [c]) ↔ HasStarted calls := by
  rw [HasStarted, enteredThen_concat]
  simp [HasStarted, h.symm]

theorem hasStartedLately_concat (hc : c ≠ .start) (hc' : c ≠ .enter) :
    HasStartedLately (calls ++ [c]) ↔ HasStartedLately calls := by
  rw [HasStartedLately, enteredThen_concat]
  simp [HasStartedLately, hc.symm, hc'.symm, hc']

theorem not_hasStartedLately_concat_enter : ¬ HasStartedLately (calls ++ [.enter]) := by
  rw [HasStartedLately, enteredThen_concat]
  rintro (⟨-, -, h⟩ | ⟨before, after, -, h, -⟩)
  · exact List.not_mem_nil h
  · exact h (by simp)

theorem not_isInside_concat_leave (failed : Bool) : ¬ IsInside (calls ++ [.leave failed]) := by
  rw [IsInside, enteredThen_concat]
  rintro (⟨⟨⟩, -⟩ | ⟨before, after, -, h⟩)
  exact h failed (by simp)

theorem not_hasStartedInside_concat_enter : ¬ HasStartedInside (calls ++ [.enter]) :=
  fun h => not_hasStartedLately_concat_enter h.hasStartedLately

/-! Until the context is left, it is the first one. -/

theorem TakeTurns.behind_enter {inside : Bool} {before after : List Call}
    (h : TakeTurns inside (before ++ .enter :: after)) : TakeTurns true after := by
  induction before generalizing inside with
  | nil => exact h.2
  | cons c before ih => cases c <;> first | exact ih h.2 | exact ih h

theorem TakeTurns.enter_not_mem (h : TakeTurns true calls)
    (unleft : ∀ failed, .leave failed ∉ calls) : .enter ∉ calls := by
  induction calls with
  | nil => exact List.not_mem_nil
  | cons c calls ih =>
    have later : ∀ failed, .leave failed ∉ calls := fun failed hmem =>
      unleft failed (List.mem_cons_of_mem c hmem)
    cases c with
    | enter => exact absurd h.1 (by decide)
    | leave failed => exact absurd List.mem_cons_self (unleft failed)
    | _ => simpa using ih h later

theorem isInside_iff_mem (unleft : ∀ failed, .leave failed ∉ calls) :
    IsInside calls ↔ .enter ∈ calls := by
  refine ⟨EnteredThen.mem, fun h => ?_⟩
  obtain ⟨before, after, rfl⟩ := List.append_of_mem h
  exact ⟨before, after, rfl, fun failed hmem => unleft failed (by simp [hmem])⟩

theorem hasStartedInside_iff (turns : TakeTurns false calls)
    (unleft : ∀ failed, .leave failed ∉ calls) : HasStartedInside calls ↔ HasStarted calls := by
  refine ⟨fun h => h.mono fun _ hafter => hafter.2.2, ?_⟩
  rintro ⟨before, after, rfl, started⟩
  have later : ∀ failed, .leave failed ∉ after := fun failed hmem => unleft failed (by simp [hmem])
  exact ⟨before, after, rfl, turns.behind_enter.enter_not_mem later, later, started⟩

end calls

end Call

namespace Display

open Call

/-! ## What a call does -/

/-- What a call does to a display. -/
def call (d : Display) : Call → Except Fault Display
  | .enter => .ok d.enter
  | .leave failed => d.leave failed
  | .start => d.start
  | .packageStarted importPath => d.packageStarted importPath
  | .packageFinished => d.packageFinished
  | .finish packages words => d.finish packages words

/-- The display behind a call. A call that fails leaves it as it is. -/
def next (d : Display) (c : Call) : Display := (d.call c).toOption.getD d

/-- The display behind some calls. -/
def behind (d : Display) (calls : List Call) : Display := calls.foldl next d

variable {d : Display} {calls : List Call} {c : Call} {event : Text}

/-- What a display has to do with the calls on it. -/
structure Reflects (d : Display) (calls : List Call) : Prop where
  board : d.board = none ↔ .enter ∉ calls
  task : d.task = none ↔ ¬ HasStarted calls
  /-- The task of the last scan is on the board exactly if the board is the one of that scan. -/
  onBoard : ∀ board task, d.board = some board → d.task = some task →
    (task < board.length ↔ HasStartedLately calls)

/-- The events behind the start each change the task in some way. -/
theorem exists_call_eq_onTask (h : c.event? = some event) :
    ∃ change : Task → Task, ∀ d : Display, d.call c =
      d.onTask event fun board task => board.update task change := by
  cases c <;> cases h <;> exact ⟨_, fun _ => rfl⟩

namespace Reflects

/-- Either no scan has ever started, or the display has a board and a task. -/
theorem task_cases (h : d.Reflects calls) : ¬ HasStarted calls ∧ d.task = none ∨
    ∃ board task, d = ⟨some board, some task⟩ ∧ HasStarted calls := by
  obtain ⟨board?, task?⟩ := d
  cases task? with
  | none => exact .inl ⟨h.task.1 rfl, rfl⟩
  | some task =>
    have started : HasStarted calls := by simpa using h.task.not.1 nofun
    cases board? with
    | none => exact absurd started.mem (h.board.1 rfl)
    | some board => exact .inr ⟨board, task, rfl, started⟩

/-- A change of the task leaves it where it is. -/
theorem modify {board : Board} {task : Nat} (h : Reflects ⟨some board, some task⟩ calls)
    (change : Task → Task) : Reflects ⟨some (board.modify task change), some task⟩ calls := by
  refine ⟨⟨nofun, fun hcalls => nomatch h.board.2 hcalls⟩,
    ⟨nofun, fun hcalls => nomatch h.task.2 hcalls⟩, ?_⟩
  rintro _ _ ⟨⟩ ⟨⟩
  rw [List.length_modify]
  exact h.onBoard board task rfl rfl

/-- Calls other than an entry and a start do not count. -/
theorem concat (h : d.Reflects calls) (hc : c ≠ .start) (hc' : c ≠ .enter) :
    d.Reflects (calls ++ [c]) where
  board := by rw [h.board]; simp [hc'.symm]
  task := by rw [h.task, hasStarted_concat hc]
  onBoard := by simpa only [hasStartedLately_concat hc hc'] using h.onBoard

/-- The task is changed if it is on the board, and else looked for in vain. -/
theorem update_cases {board : Board} {task : Nat} (h : Reflects ⟨some board, some task⟩ calls)
    (change : Task → Task) :
    let changed : Except Fault Display := do
      let board ← board.update task change
      return ⟨some board, some task⟩
    (¬ HasStartedLately calls ∧ changed = .error (Board.noTask task)) ∨
      (HasStartedLately calls ∧ ∃ d', changed = .ok d' ∧ d'.Reflects calls) := by
  intro changed
  have update : board.update task change = if task < board.length then
      .ok (board.modify task change) else .error (Board.noTask task) := rfl
  by_cases present : task < board.length
  · refine .inr ⟨(h.onBoard board task rfl rfl).1 present, _, ?_, h.modify change⟩
    rw [if_pos present] at update
    simp only [changed, update]
    rfl
  · refine .inl ⟨fun lately => present ((h.onBoard board task rfl rfl).2 lately), ?_⟩
    rw [if_neg present] at update
    simp only [changed, update]
    rfl

/-- What comes of an event behind the start. -/
theorem event_cases (h : d.Reflects calls) (hc : c.event? = some event) :
    (¬ HasStarted calls ∧ d.call c = .error (notStarted event)) ∨
    (HasStarted calls ∧ ¬ HasStartedLately calls ∧
      ∃ task : Nat, d.call c = .error (Board.noTask task)) ∨
    (HasStartedLately calls ∧ ∃ d', d.call c = .ok d' ∧ d'.Reflects calls) := by
  obtain ⟨change, hchange⟩ := exists_call_eq_onTask hc
  rw [hchange]
  obtain ⟨started, htask⟩ | ⟨board, task, rfl, started⟩ := h.task_cases
  · refine .inl ⟨started, ?_⟩
    rw [onTask, htask]
    split <;> first | rfl | contradiction
  · obtain ⟨lately, changed⟩ | ⟨lately, changed⟩ := h.update_cases change
    · exact .inr (.inl ⟨started, lately, task, changed⟩)
    · exact .inr (.inr ⟨lately, changed⟩)

/-- What comes of leaving: a failure is shown on the task of the last scan, if there was one. -/
theorem leave_cases (h : d.Reflects calls) (failed : Bool) :
    (failed = true ∧ HasStarted calls ∧ ¬ HasStartedLately calls ∧
      ∃ task : Nat, d.leave failed = .error (Board.noTask task)) ∨
    ((failed = true → HasStarted calls → HasStartedLately calls) ∧
      ∃ d', d.leave failed = .ok d' ∧ d'.Reflects calls) := by
  obtain ⟨started, htask⟩ | ⟨board, task, rfl, started⟩ := h.task_cases
  · refine .inr ⟨fun _ hstarted => absurd hstarted started, d, ?_, h⟩
    rw [leave, htask]
    split <;> first | rfl | contradiction
  · cases failed with
    | false => exact .inr ⟨nofun, _, rfl, h⟩
    | true =>
      obtain ⟨lately, changed⟩ | ⟨lately, changed⟩ := h.update_cases fun t =>
        ⟨styled .error abortLabel, t.completed, t.total⟩
      · exact .inl ⟨rfl, started, lately, task, changed⟩
      · exact .inr ⟨fun _ _ => lately, changed⟩

/-- What comes of a start: it needs a board, which is there once the context has been entered. -/
theorem start_cases (h : d.Reflects calls) :
    (.enter ∉ calls ∧ d.call .start = .error notEntered) ∨
      .enter ∈ calls ∧ ∃ d', d.call .start = .ok d' ∧ d'.Reflects (calls ++ [.start]) := by
  obtain ⟨board?, task?⟩ := d
  cases board? with
  | none => exact .inl ⟨h.board.1 rfl, rfl⟩
  | some board =>
    have entered : .enter ∈ calls := by simpa using h.board.not.1 nofun
    refine .inr ⟨entered, _, rfl, ⟨nofun, fun hcalls => absurd entered (by simpa using hcalls)⟩,
      ⟨nofun, fun hcalls => absurd (hasStarted_concat_start.2 entered) hcalls⟩, ?_⟩
    rintro _ _ ⟨⟩ ⟨⟩
    simp [Board.create, hasStartedLately_concat_start, entered]

/-- Entering gives a new board, and keeps the task of the last scan. -/
theorem enter (h : d.Reflects calls) : d.enter.Reflects (calls ++ [.enter]) where
  board := by simp [Display.enter]
  task := by
    rw [hasStarted_concat (by decide), ← h.task]
    rfl
  onBoard := by
    rintro _ _ ⟨⟩ -
    simp [not_hasStartedLately_concat_enter]

/-- A start that is refused does not count. -/
theorem concat_start (h : d.Reflects calls) (entered : .enter ∉ calls) :
    d.Reflects (calls ++ [.start]) where
  board := by rw [h.board]; simp
  task := by
    rw [h.task, hasStarted_concat_start]
    exact iff_of_true (fun started => entered started.mem) entered
  onBoard := by
    intro board task hboard _
    exact nomatch hboard.symm.trans (h.board.2 entered)

/-- One more call. -/
theorem next (h : d.Reflects calls) (c : Call) : (d.next c).Reflects (calls ++ [c]) := by
  have of_error : ∀ {f}, d.call c = .error f → d.Reflects (calls ++ [c]) →
      (d.next c).Reflects (calls ++ [c]) := fun hf hd => by
    rw [Display.next, hf]
    exact hd
  have of_ok : ∀ {d'}, d.call c = .ok d' → d'.Reflects (calls ++ [c]) →
      (d.next c).Reflects (calls ++ [c]) := fun hok hd => by
    rw [Display.next, hok]
    exact hd
  cases hc : c.event? with
  | some event =>
    have start : c ≠ .start := by rintro rfl; cases hc
    have enter : c ≠ .enter := by rintro rfl; cases hc
    obtain ⟨-, hf⟩ | ⟨-, -, task, hf⟩ | ⟨-, d', hok, hd'⟩ := h.event_cases hc
    · exact of_error hf (h.concat start enter)
    · exact of_error hf (h.concat start enter)
    · exact of_ok hok (hd'.concat start enter)
  | none =>
    cases c with
    | enter => exact of_ok rfl h.enter
    | start =>
      obtain ⟨entered, hf⟩ | ⟨-, d', hok, hd'⟩ := h.start_cases
      · exact of_error hf (h.concat_start entered)
      · exact of_ok hok hd'
    | leave failed =>
      have start : Call.leave failed ≠ .start := nofun
      have enter : Call.leave failed ≠ .enter := nofun
      obtain ⟨-, -, -, task, hf⟩ | ⟨-, d', hok, hd'⟩ := h.leave_cases failed
      · exact of_error hf (h.concat start enter)
      · exact of_ok hok (hd'.concat start enter)
    | packageStarted importPath => cases hc
    | packageFinished => cases hc
    | finish packages words => cases hc

end Reflects

/-- What a display has to do with any calls on it. -/
theorem reflects_behind (calls : List Call) : (fresh.behind calls).Reflects calls := by
  induction calls using List.reverseRecOn with
  | nil =>
    have noStart : ¬ HasStarted [] := fun h => List.not_mem_nil h.mem
    exact ⟨by simp [behind, fresh], iff_of_true rfl noStart, nofun⟩
  | append_singleton calls c ih =>
    rw [behind, List.foldl_append]
    exact ih.next c

/-! ## Which calls are refused -/

/-- What refuses a call behind other ones. -/
inductive Refused (calls : List Call) : Call → Fault → Prop where
  /-- A scan starts, and the context has never been entered. -/
  | notEntered (h : .enter ∉ calls) : Refused calls .start notEntered
  /-- An event comes, and no scan has ever started. -/
  | notStarted (c : Call) (event : Text) (hc : c.event? = some event) (h : ¬ HasStarted calls) :
      Refused calls c (notStarted event)
  /-- An event comes, or a failure passes through, and the last scan was on an earlier board. -/
  | noTask (c : Call) (task : Nat) (hc : c.event? ≠ none ∨ c = .leave true)
      (started : HasStarted calls) (lately : ¬ HasStartedLately calls) :
      Refused calls c (Board.noTask task)

theorem refused_of_call {f : Fault} (h : (fresh.behind calls).call c = .error f) :
    Refused calls c f := by
  have reflects := reflects_behind calls
  cases hc : c.event? with
  | some event =>
    obtain ⟨started, hf⟩ | ⟨started, lately, task, hf⟩ | ⟨-, d', hok, -⟩ := reflects.event_cases hc
    · exact Except.error.inj (hf.symm.trans h) ▸ .notStarted c event hc started
    · exact Except.error.inj (hf.symm.trans h) ▸ .noTask c task (.inl (by simp [hc])) started lately
    · exact nomatch hok.symm.trans h
  | none =>
    cases c with
    | enter => cases h
    | start =>
      obtain ⟨entered, hf⟩ | ⟨-, d', hok, -⟩ := reflects.start_cases
      · exact Except.error.inj (hf.symm.trans h) ▸ .notEntered entered
      · exact nomatch hok.symm.trans h
    | leave failed =>
      obtain ⟨rfl, started, lately, task, hf⟩ | ⟨-, d', hok, -⟩ := reflects.leave_cases failed
      · exact Except.error.inj (hf.symm.trans h) ▸ .noTask _ task (.inr rfl) started lately
      · exact nomatch hok.symm.trans h
    | packageStarted importPath => cases hc
    | packageFinished => cases hc
    | finish packages words => cases hc

theorem exists_call_eq_error {f : Fault} (h : Refused calls c f) :
    ∃ f, (fresh.behind calls).call c = .error f := by
  have reflects := reflects_behind calls
  cases h with
  | notEntered entered =>
    obtain ⟨-, hf⟩ | ⟨entered', -⟩ := reflects.start_cases
    · exact ⟨_, hf⟩
    · exact absurd entered' entered
  | notStarted _ event hc started =>
    obtain ⟨-, hf⟩ | ⟨started', -⟩ | ⟨lately, -⟩ := reflects.event_cases hc
    · exact ⟨_, hf⟩
    · exact absurd started' started
    · exact absurd lately.hasStarted started
  | noTask _ task hc started lately =>
    obtain hc | rfl := hc
    · obtain ⟨event, hc⟩ := Option.ne_none_iff_exists'.1 hc
      obtain ⟨started', -⟩ | ⟨-, -, task, hf⟩ | ⟨lately', -⟩ := reflects.event_cases hc
      · exact absurd started started'
      · exact ⟨_, hf⟩
      · exact absurd lately' lately
    · obtain ⟨-, -, -, task, hf⟩ | ⟨lately', -⟩ := reflects.leave_cases true
      · exact ⟨_, hf⟩
      · exact absurd (lately' rfl started) lately

/-- **When the calls on a display are refused.** A call fails exactly if it is refused on account of
the calls before it: a start for want of an entry, another event for want of a start, no matter how
long ago either was; and an event or a failure that passes through, if the display has been entered
again since the last scan. So until the display is left for the first time, a call fails exactly if
it is misuse, and it is told so. -/
theorem misuse_of_calls (calls : List Call) (c : Call) :
    let answer := (fresh.behind calls).call c
    (∀ f, answer = .error f → Refused calls c f) ∧
    ((∃ f, answer = .error f) ↔ ∃ f, Refused calls c f) ∧
    (TakeTurns false calls → (∀ failed, .leave failed ∉ calls) →
      ((∃ m, answer = .error (.misuse m)) ↔ IsMisuse calls c) ∧
      ∀ f, answer = .error f → ∃ m, f = .misuse m) := by
  intro answer
  refine ⟨fun f => refused_of_call, ⟨fun ⟨f, h⟩ => ⟨f, refused_of_call h⟩,
    fun ⟨f, h⟩ => exists_call_eq_error h⟩, fun turns unleft => ?_⟩
  have inside := isInside_iff_mem unleft
  have started := hasStartedInside_iff turns unleft
  have told : ∀ f, answer = .error f → IsMisuse calls c ∧ ∃ m, f = .misuse m := by
    intro f h
    cases refused_of_call h with
    | notEntered entered => exact ⟨.inl ⟨rfl, inside.not.2 entered⟩, _, rfl⟩
    | notStarted _ event hc never => exact ⟨.inr ⟨by simp [hc], started.not.2 never⟩, _, rfl⟩
    | noTask _ task hc once lately => exact absurd (started.2 once).hasStartedLately lately
  refine ⟨⟨fun ⟨m, h⟩ => (told _ h).1, fun misuse => ?_⟩, fun f h => (told f h).2⟩
  have refused : ∃ f, Refused calls c f := by
    obtain ⟨rfl, h⟩ | ⟨hc, h⟩ := misuse
    · exact ⟨_, .notEntered (inside.not.1 h)⟩
    · obtain ⟨event, hc⟩ := Option.ne_none_iff_exists'.1 hc
      exact ⟨_, .notStarted c event hc (started.not.1 h)⟩
  obtain ⟨f, h⟩ := refused
  obtain ⟨f, hf⟩ := exists_call_eq_error h
  obtain ⟨m, rfl⟩ := (told f hf).2
  exact ⟨m, hf⟩

theorem misuse_of_calls_early : IsMisuse [.enter] .packageFinished ∧
    TakeTurns false [.enter] ∧ (∀ failed, .leave failed ∉ [Call.enter]) ∧
    ∃ m, (fresh.behind [.enter]).call .packageFinished = .error (.misuse m) := by
  have turns : TakeTurns false [.enter] := ⟨rfl, trivial⟩
  have unleft : ∀ failed, .leave failed ∉ [Call.enter] := by simp
  have early : IsMisuse ([] ++ [.enter]) .packageFinished :=
    .inr ⟨nofun, not_hasStartedInside_concat_enter⟩
  exact ⟨early, turns, unleft, ((misuse_of_calls _ _).2.2 turns unleft).1.2 early⟩

/-- Calls on a display that is used for a second scan, which has not started. -/
def again : List Call := [.enter, .start, .leave false] ++ [.enter]

/-- Behind the context a scan can start; and where the display is entered again, an event is not
told that it is misuse, and a failure that passes through is replaced. -/
theorem misuse_not_caught :
    (IsMisuse ([.enter] ++ [.leave false]) .start ∧ TakeTurns false [.enter, .leave false, .start] ∧
      ∃ d, (fresh.behind ([.enter] ++ [.leave false])).call .start = .ok d) ∧
    TakeTurns false (again ++ [.packageStarted "io", .leave true]) ∧
    (IsMisuse again (.packageStarted "io") ∧
      (fresh.behind again).call (.packageStarted "io") = .error (.missingKey "0")) ∧
    (fresh.behind again).call (.leave true) = .error (.missingKey "0") :=
  ⟨⟨.inl ⟨rfl, not_isInside_concat_leave false⟩, ⟨rfl, rfl, trivial⟩, _, rfl⟩,
    ⟨rfl, rfl, rfl, rfl, trivial⟩, ⟨.inr ⟨nofun, not_hasStartedInside_concat_enter⟩, rfl⟩, rfl⟩

end Display

end GoLexicon.Progress
