import GoLexicon.CommandLine.Run
import GoLexicon.Proofs.Scan.Protocol
/-!
# The display of a scan

Once a scan has started, each event does one thing to the task of the display, and never fails
(`Progress.Display.follow_task`). So a display does not change what comes of a scan
(`CommandLine.followed_run`), and at any time its task counts the packages that are finished so far
(`Scan.display_counts_packages`). The task is counted up with each package, and the count is set once
more when the scan is finished; the two ways agree.
-/

namespace GoLexicon

namespace Event

/-- An event comes behind the start of a scan. -/
def isLater : Event → Bool
  | entered | scanStarted => false
  | _ => true

/-- An event says that a package is begun, or finished. -/
def isOfPackage : Event → Bool
  | packageStarted _ | packageFinished _ => true
  | _ => false

theorem isLater_of_isOfPackage {e : Event} (h : e.isOfPackage = true) : e.isLater = true := by
  cases e <;> first | rfl | exact nomatch h

end Event

namespace Progress

/-- What an event does to the task of a display. -/
def Task.after (t : Task) : Event → Task
  | .packageStarted importPath =>
    { t with label := styled .inProgress ("Scanning " ++ importPath.plain) }
  | .packageFinished _ => { t with completed := t.completed + 1 }
  | .scanFinished packages words =>
    ⟨styled .complete (Display.finishLabel packages words), packages, some (packages : Int)⟩
  | .left (some _) => { t with label := styled .error Display.abortLabel }
  | _ => t

/-- Packages are counted, and the total is left alone. -/
theorem Task.foldl_after {es : List Event} (h : ∀ e ∈ es, e.isOfPackage = true) (t : Task) :
    (es.foldl Task.after t).completed = t.completed + Record.finishedIn es ∧
      (es.foldl Task.after t).total = t.total := by
  induction es generalizing t with
  | nil => exact ⟨(Int.add_zero _).symm, rfl⟩
  | cons e es ih =>
    obtain ⟨he, hes⟩ := List.forall_mem_cons.1 h
    obtain ⟨hcompleted, htotal⟩ := ih hes (t.after e)
    rw [List.foldl_cons, hcompleted, htotal]
    cases e with
    | packageStarted importPath => exact ⟨rfl, rfl⟩
    | packageFinished importPath =>
      refine ⟨?_, rfl⟩
      simp only [Task.after, Record.finishedIn, List.countP_cons, if_true]
      omega
    | _ => exact absurd he Bool.false_ne_true

namespace Display

variable {t : Task} {e : Event} {es : List Event}

/-- The display that shows one task. -/
def ofTask (t : Task) : Display := ⟨some [t], some 0⟩

/-- The task of a scan that begins. -/
def firstTask : Task := ⟨styled .inProgress startLabel, 0, none⟩

theorem handle_task (h : e.isLater = true) : (ofTask t).handle e = .ok (ofTask (t.after e)) := by
  cases e with
  | entered => exact nomatch h
  | scanStarted => exact nomatch h
  | left failure => cases failure <;> rfl
  | _ => rfl

/-- Once a scan has started, a display follows its events without failing. -/
theorem follow_task (h : ∀ e ∈ es, e.isLater = true) (t : Task) :
    (ofTask t).follow es = .ok (ofTask (es.foldl Task.after t)) := by
  induction es generalizing t with
  | nil => rfl
  | cons e es ih =>
    obtain ⟨he, hes⟩ := List.forall_mem_cons.1 h
    rw [follow, List.foldlM_cons, handle_task he]
    exact ih hes (t.after e)

/-- What a display is not told does nothing to it. -/
theorem follow_filter (d : Display) (es : List Event) :
    d.follow (es.filter (·.isTold)) = d.follow es := by
  induction es generalizing d with
  | nil => rfl
  | cons e es ih =>
    cases he : e.isTold with
    | true =>
      rw [List.filter_cons_of_pos he, follow, List.foldlM_cons, follow, List.foldlM_cons]
      exact congrArg _ (funext fun d' => ih d')
    | false =>
      have untold : d.handle e = .ok d := by cases e <;> first | rfl | exact nomatch he
      rw [List.filter_cons_of_neg (by simp [he]), ih, follow, follow, List.foldlM_cons, untold]
      rfl

/-- A display that is entered and told that a scan starts shows its task. -/
theorem follow_started (h : ∀ e ∈ es, e.isLater = true) :
    fresh.follow (.entered :: .scanStarted :: es) = .ok (ofTask (es.foldl Task.after firstTask)) :=
  follow_task h firstTask

end Display

end Progress

theorem Record.finishedIn_filter (es : List Event) :
    finishedIn (es.filter (·.isTold)) = finishedIn es := by
  rw [finishedIn, finishedIn, List.countP_filter]
  refine List.countP_congr fun e _ => ?_
  cases e <;> simp [Event.isTold]

/-! ## Whole scans -/

theorem Package.isOfPackage_told {p : Package} : ∀ e ∈ p.told, e.isOfPackage = true := by
  simp [Package.told, Event.isOfPackage]

theorem isOfPackage_flatMap_told (ps : List Package) :
    ∀ e ∈ ps.flatMap Package.told, e.isOfPackage = true := by
  intro e he
  obtain ⟨p, -, he⟩ := List.mem_flatMap.1 he
  exact Package.isOfPackage_told e he

theorem BreaksOff.isOfPackage_told {f : Failure} {a : Account} (h : BreaksOff f a) :
    ∀ e ∈ a.told, e.isOfPackage = true := by
  obtain ⟨-, htold⟩ | ⟨done, p, -, -, htold⟩ := h.told_cases
  · rw [htold]
    exact isOfPackage_flatMap_told _
  · rw [htold]
    exact List.forall_mem_append.2 ⟨isOfPackage_flatMap_told done, by simp [Event.isOfPackage]⟩

namespace Progress.Task

/-- A task counts the packages that some events have finished, and has no total before the scan is
finished. -/
structure Counts (t : Task) (es : List Event) : Prop where
  completed : t.completed = Record.finishedIn es
  total : (∀ n m, .scanFinished n m ∉ es) → t.total = none

variable {es es' : List Event}

/-- Before the end, and also where a scan fails, the task counts packages. -/
theorem counts_of_isPrefix (onWay : ∀ e ∈ es, e.isOfPackage = true) (h : es' <+: es) :
    (es'.foldl Task.after Display.firstTask).Counts es' := by
  obtain ⟨hcompleted, htotal⟩ := foldl_after (fun e he => onWay e (h.subset he)) Display.firstTask
  exact ⟨hcompleted.trans (Int.zero_add _), fun _ => htotal⟩

/-- The end of a failed scan changes neither count nor total. -/
theorem counts_failed (onWay : ∀ e ∈ es, e.isOfPackage = true) {f : Failure}
    (h : es' <+: es ++ [.left (some f)]) :
    (es'.foldl Task.after Display.firstTask).Counts es' := by
  obtain rfl | h := List.prefix_concat_iff.1 h
  · obtain ⟨hcompleted, htotal⟩ := foldl_after onWay Display.firstTask
    rw [List.foldl_append]
    refine ⟨hcompleted.trans ?_, fun _ => htotal⟩
    simp [Record.finishedIn, Display.firstTask]
  · exact counts_of_isPrefix onWay h

/-- The count that a finished scan sets is the one that the task has reached. -/
theorem counts_finished (onWay : ∀ e ∈ es, e.isOfPackage = true) {words : Nat}
    (h : es' <+: es ++ [.scanFinished (Record.finishedIn es) words, .left none]) :
    (es'.foldl Task.after Display.firstTask).Counts es' := by
  rw [List.append_cons] at h
  obtain rfl | h := List.prefix_concat_iff.1 h
  · rw [List.foldl_append, List.foldl_append]
    exact ⟨by simp [Record.finishedIn, Task.after],
      fun h => absurd (by simp) (h (Record.finishedIn es) words)⟩
  obtain rfl | h := List.prefix_concat_iff.1 h
  · rw [List.foldl_append]
    exact ⟨by simp [Record.finishedIn, Task.after],
      fun h => absurd (by simp) (h (Record.finishedIn es) words)⟩
  · exact counts_of_isPrefix onWay h

end Progress.Task

namespace Scan

open Progress

/-- The events that a display is told: the start of the scan, what happens with packages, and one of
two ends. -/
theorem exists_told (guide : Guide) (mode : Mode) (further : List Text) :
    let o := run guide mode further
    ∃ es : List Event, (∀ e ∈ es, e.isOfPackage = true) ∧
      ((∃ s, o.result = .ok s ∧ Record.finishedIn es = (o.packages guide).length ∧
        o.told = .entered :: .scanStarted ::
          (es ++ [.scanFinished (Record.finishedIn es) s.size, .left none])) ∨
      ∃ f, o.result = .error f ∧ o.told = .entered :: .scanStarted :: (es ++ [.left (some f)])) := by
  intro o
  obtain ⟨s, survey, hs, -, hd, ht, -⟩ | ⟨f, a, hf, hb, -, ht⟩ := run_course guide mode further
  · have finished := finishedIn_account survey
    have packages : (o.packages guide).length = survey.visits.length := by
      rw [Outcome.packages, hd, survey.packages_account, List.length_map]
    refine ⟨survey.account.told, ?_, .inl ⟨s, hs, finished.trans packages.symm, ?_⟩⟩
    · rw [survey.told_account]
      exact isOfPackage_flatMap_told _
    · rw [finished]
      exact ht
  · exact ⟨a.told, hb.isOfPackage_told, .inr ⟨f, hf, ht⟩⟩

theorem isPrefix_of_started {es es' : List Event} (h : es' <+: .entered :: .scanStarted :: es)
    (started : .scanStarted ∈ es') :
    ∃ later, es' = .entered :: .scanStarted :: later ∧ later <+: es := by
  obtain rfl | ⟨behind, rfl, hbehind⟩ := List.prefix_cons_iff.1 h
  · exact absurd started List.not_mem_nil
  obtain rfl | ⟨later, rfl, hlater⟩ := List.prefix_cons_iff.1 hbehind
  · exact absurd started (by simp)
  · exact ⟨later, rfl, hlater⟩

section follow

variable {o : Outcome} {es : List Event} (told : o.told = .entered :: .scanStarted :: es)
  (later : ∀ e ∈ es, e.isLater = true)
include told later

theorem follow_trace : Display.fresh.follow o.trace =
    .ok (.ofTask (es.foldl Task.after Display.firstTask)) := by
  rw [← Display.follow_filter, ← Outcome.told, told]
  exact Display.follow_started later

/-- At any time behind the start the display shows one task. -/
theorem follow_before {before after : List Event} (split : o.trace = before ++ after)
    (started : .scanStarted ∈ before)
    (counts : ∀ es', es' <+: es → (es'.foldl Task.after Display.firstTask).Counts es') :
    ∃ t : Task, Display.fresh.follow before = .ok (.ofTask t) ∧ t.Counts before := by
  have heard : before.filter (·.isTold) <+: .entered :: .scanStarted :: es := by
    rw [← told, Outcome.told, split, List.filter_append]
    exact List.prefix_append _ _
  obtain ⟨es', hbefore, hes'⟩ :=
    isPrefix_of_started heard (List.mem_filter.2 ⟨started, rfl⟩)
  refine ⟨es'.foldl Task.after Display.firstTask, ?_, ?_, fun unfinished => ?_⟩
  · rw [← Display.follow_filter, hbefore]
    exact Display.follow_started fun e he => later e (hes'.subset he)
  · rw [(counts es' hes').completed, ← Record.finishedIn_filter before, hbefore]
    rfl
  · refine (counts es' hes').total fun n m hmem => unfinished n m ?_
    have hfinished : .scanFinished n m ∈ before.filter (·.isTold) := by simp [hbefore, hmem]
    exact List.mem_of_mem_filter hfinished

end follow

theorem isLater_finished {es : List Event} (onWay : ∀ e ∈ es, e.isOfPackage = true)
    (packages words : Nat) :
    ∀ e ∈ es ++ [.scanFinished packages words, .left none], e.isLater = true :=
  List.forall_mem_append.2
    ⟨fun e he => Event.isLater_of_isOfPackage (onWay e he), by simp [Event.isLater]⟩

theorem isLater_failed {es : List Event} (onWay : ∀ e ∈ es, e.isOfPackage = true) (f : Failure) :
    ∀ e ∈ es ++ [.left (some f)], e.isLater = true :=
  List.forall_mem_append.2
    ⟨fun e he => Event.isLater_of_isOfPackage (onWay e he), by simp [Event.isLater]⟩

/-- A scan comes to the same with a display as without it. -/
theorem followed_run (guide : Guide) (mode : Mode) (further : List Text) :
    CommandLine.followed (run guide mode further) = (run guide mode further).result := by
  obtain ⟨es, onWay, ⟨s, -, -, told⟩ | ⟨f, -, told⟩⟩ := exists_told guide mode further
  · rw [CommandLine.followed, follow_trace told (isLater_finished onWay _ _)]
  · rw [CommandLine.followed, follow_trace told (isLater_failed onWay f)]

/-- **A display counts the packages of a scan and does not disturb it.** The scan comes to the same
as without it. At any time behind the start of the scan there is one task, which counts the packages
that are finished so far, and it has no total before the scan is finished. In the end the task is
complete, and count and total are the number of packages that the scan was given, one for each path
of the list that is not internal; or, if the scan fails, the task says that it is aborted and keeps
its count, without a total. -/
theorem display_counts_packages (guide : Guide) (mode : Mode) (further : List Text) :
    let o := run guide mode further
    CommandLine.followed o = o.result ∧
    (∀ before after, o.trace = before ++ after → .scanStarted ∈ before →
      ∃ t : Task, Display.fresh.follow before = .ok (.ofTask t) ∧ t.Counts before) ∧
    (∀ s, o.result = .ok s → ∃ n, n = (o.packages guide).length ∧ o.ObtainsLibrary guide ∧
      Display.fresh.follow o.trace =
        .ok (.ofTask ⟨styled .complete (Display.finishLabel n s.size), n, some (n : Int)⟩)) ∧
    ∀ f, o.result = .error f → Display.fresh.follow o.trace =
      .ok (.ofTask ⟨styled .error Display.abortLabel, Record.finishedIn o.trace, none⟩) := by
  intro o
  refine ⟨followed_run guide mode further, ?_⟩
  obtain ⟨es, onWay, ⟨s, hs, hcount, told⟩ | ⟨f, hf, told⟩⟩ := exists_told guide mode further
  · have later := isLater_finished onWay (Record.finishedIn es) s.size
    refine ⟨fun before after split started =>
      follow_before told later split started fun _ => Task.counts_finished onWay, ?_, ?_⟩
    · intro s' hs'
      obtain rfl : s = s' := Except.ok.inj (hs.symm.trans hs')
      refine ⟨Record.finishedIn es, hcount, obtainsLibrary_run hs,
        (follow_trace told later).trans ?_⟩
      rw [List.foldl_append]
      rfl
    · intro f hf
      exact nomatch hs.symm.trans hf
  · have later := isLater_failed onWay f
    refine ⟨fun before after split started =>
      follow_before told later split started fun _ => Task.counts_failed onWay, ?_, ?_⟩
    · intro s hs
      exact nomatch hf.symm.trans hs
    · intro f' _
      obtain ⟨hcompleted, htotal⟩ := Task.foldl_after onWay Display.firstTask
      have counted : Record.finishedIn o.trace = Record.finishedIn es := by
        rw [← Record.finishedIn_filter, ← Outcome.told, told]
        simp [Record.finishedIn]
      have aborted : ∀ t : Task, [Event.left (some f)].foldl Task.after t =
          ⟨styled .error Display.abortLabel, t.completed, t.total⟩ := fun _ => rfl
      rw [follow_trace told later, counted, List.foldl_append, aborted, hcompleted, htotal]
      simp [Display.firstTask]

/-- The display of a scan of the small library ends with its one package, or with none if the file
of the package is not there. -/
theorem display_counts_smallLibrary :
    (∃ s : WordSet, Display.fresh.follow
        (run (.of smallLibrary fun _ => .ok ["Println"]) .strict []).trace =
      .ok (.ofTask ⟨styled .complete (Display.finishLabel 1 s.size), 1, some 1⟩)) ∧
    Display.fresh.follow (run (.of smallLibrary noFiles) .strict []).trace =
      .ok (.ofTask ⟨styled .error Display.abortLabel, 0, none⟩) := by
  constructor
  · obtain ⟨s, hs⟩ : ∃ s, (run (.of smallLibrary fun _ => .ok ["Println"]) .strict []).result =
        .ok s := (run_of_ok_iff isNamed_smallLibrary).2 (isReadable_smallLibrary ["Println"])
    obtain ⟨-, -, completes, -⟩ := display_counts_packages
      (.of smallLibrary fun _ => .ok ["Println"]) .strict []
    obtain ⟨n, hn, library, shown⟩ := completes s hs
    rw [Outcome.packages_smallLibrary library] at hn
    obtain rfl := hn
    exact ⟨s, shown⟩
  · obtain ⟨-, -, -, aborts⟩ := display_counts_packages (.of smallLibrary noFiles) .strict []
    exact aborts _ rfl

end Scan

end GoLexicon
