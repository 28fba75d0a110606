import GoLexicon.Proofs.Except
import GoLexicon.Proofs.Scan.Course
/-!
# Two scans side by side

Two parts of scans go side by side under a relation of records if they come to the same from related
records, and leave related records (`Scan.Alongside`). A second relation says which failures are
taken for the same. There is a rule for each way in which parts are composed.

For two whole scans it is enough that the relations are kept wherever a scan asks, tells or adds
something (`Scan.Lockstep`). They then give the sets of related records, or fail with related
failures (`Scan.Lockstep.run_upTo`). The two scans may have different guides and different modes;
with the same scan on both sides, and the same record, this says what a scan keeps
(`Scan.Lockstep.of_kept`).
-/

namespace GoLexicon

/-- Is an event the note on a word that is about to be added? -/
def Event.isAddition : Event → Bool
  | adding _ => true
  | _ => false

namespace Guide

variable (guide : Guide)

/-- At some time a guide lists an import path that is not internal. -/
def Lists (importPath : Text) : Prop :=
  ∃ before importPaths, guide.list before = .ok importPaths ∧ importPath ∈ publicPaths importPaths

/-- At some time a guide gives a package. -/
def Gives (p : Package) : Prop := ∃ before importPath, guide.resolve before importPath = .ok p

/-- A path is that of a file of a package that a guide gives. -/
def Holds (path : Path) : Prop := ∃ p paths, guide.Gives p ∧ p.filePaths = .ok paths ∧ path ∈ paths

end Guide

namespace Scan

variable {α β : Type}

/-! ## What a part may come to -/

/-- From some record a part of a scan comes to a value. -/
def Yields (part : Scan α) (x : α) : Prop := ∃ r, (part.perform r).1 = .ok x

theorem Yields.of_bind {part : Scan α} {next : α → Scan β} {y : β} (h : Yields (part >>= next) y) :
    ∃ x, Yields part x ∧ Yields (next x) y := by
  obtain ⟨r, hr⟩ := h
  have done : (part >>= next).perform r = (.ok y, ((part >>= next).perform r).2) :=
    Prod.ext hr rfl
  obtain ⟨x, r', hpart, hnext⟩ := exists_of_perform_bind done
  exact ⟨x, ⟨r, by rw [hpart]⟩, ⟨r', by rw [hnext]⟩⟩

theorem Yields.of_ask {question : Event} {answer : List Event → Except Failure α} {x : α}
    (h : Yields (ask question answer) x) : ∃ before, answer before = .ok x := by
  obtain ⟨r, hr⟩ := h
  rw [perform_ask] at hr
  exact ⟨r.events, hr⟩

theorem Yields.of_check {x : Except Fault α} {a : α} (h : Yields (check x) a) : x = .ok a := by
  obtain ⟨r, hr⟩ := h
  cases x with
  | error fault => cases hr
  | ok b =>
    have hb : (Except.ok b : Except Failure α) = .ok a := hr
    rw [Except.ok.inj hb]

/-! ## Parts side by side -/

/-- From related records two parts of scans come to the same, or to related failures, and leave
related records. -/
def Alongside (R : Record → Record → Prop) (E : Failure → Failure → Prop) (part part' : Scan α) :
    Prop :=
  ∀ r r', R r r' → Except.AgreeUpTo E (part.perform r).1 (part'.perform r').1 ∧
    R (part.perform r).2 (part'.perform r').2

namespace Alongside

variable {R : Record → Record → Prop} {E : Failure → Failure → Prop} {part part' : Scan α}
  {next next' : α → Scan β}

theorem pure (x : α) : Alongside R E (pure x) (pure x) := fun _ _ hr => ⟨.ok x, hr⟩

theorem check [Std.Refl E] (x : Except Fault α) :
    Alongside R E (Scan.check x) (Scan.check x) := by
  intro r r' hr
  cases x <;> exact ⟨.refl _, hr⟩

/-- One part behind another one. -/
theorem bind (h : Alongside R E part part')
    (hnext : ∀ x, Yields part x → Alongside R E (next x) (next' x)) :
    Alongside R E (part >>= next) (part' >>= next') := by
  intro r r' hr
  obtain ⟨hresult, hrecord⟩ := h r r' hr
  cases hpart : part.perform r with
  | mk result s =>
    cases hpart' : part'.perform r' with
    | mk result' s' =>
      rw [hpart, hpart'] at hresult hrecord
      cases hresult with
      | error hf =>
        rw [perform_bind_error hpart, perform_bind_error hpart']
        exact ⟨.error hf, hrecord⟩
      | ok x =>
        rw [perform_bind_ok hpart, perform_bind_ok hpart']
        exact hnext x ⟨r, by rw [hpart]⟩ s s' hrecord

/-- Parts that are repeated for the items of a list. -/
theorem forM {ι : Type} {body body' : ι → Scan Unit} {is : List ι}
    (h : ∀ i ∈ is, Alongside R E (body i) (body' i)) :
    Alongside R E (is.forM body) (is.forM body') := by
  induction is with
  | nil => exact pure ()
  | cons i is ih =>
    have hfirst : Alongside R E (body i) (body' i) := h i (by simp)
    have hrest : Alongside R E (is.forM body) (is.forM body') := ih fun j hj => h j (by simp [hj])
    exact bind hfirst fun _ _ => hrest

theorem happens {e : Event} (h : ∀ r r', R r r' →
      R { r with events := e :: r.events } { r' with events := e :: r'.events }) :
    Alongside R E (Scan.happens e) (Scan.happens e) := by
  intro r r' hr
  rw [perform_happens, perform_happens]
  exact ⟨.ok (), h r r' hr⟩

/-- A question that is put, and answered alike. -/
theorem ask {question : Event} {answer answer' : List Event → Except Failure α}
    (hanswer : ∀ r r', R r r' → Except.AgreeUpTo E (answer r.events) (answer' r'.events))
    (h : ∀ r r', R r r' →
      R { r with events := question :: r.events } { r' with events := question :: r'.events }) :
    Alongside R E (Scan.ask question answer) (Scan.ask question answer') := by
  intro r r' hr
  rw [perform_ask, perform_ask]
  exact ⟨hanswer r r' hr, h r r' hr⟩

end Alongside

/-! ## Whole scans side by side -/

/-- A relation of the records of two scans is kept wherever they ask, tell or add something, and
related records get the same answers, or related failures. -/
structure Lockstep (R : Record → Record → Prop) (E : Failure → Failure → Prop)
    (guide guide' : Guide) (mode mode' : Mode) : Prop where
  list : ∀ r r', R r r' → Except.AgreeUpTo E (guide.list r.events) (guide'.list r'.events)
  resolve : ∀ importPath, guide.Lists importPath → ∀ r r', R r r' →
    Except.AgreeUpTo E (guide.resolve r.events importPath) (guide'.resolve r'.events importPath)
  extract : ∀ path, guide.Holds path → ∀ r r', R r r' →
    Except.AgreeUpTo E (guide.extract r.events path) (guide'.extract r'.events path)
  event : ∀ e, e.isAddition = false → ∀ r r', R r r' →
    R { r with events := e :: r.events } { r' with events := e :: r'.events }
  finished : ∀ r r', R r r' →
    R { r with finished := r.finished + 1 } { r' with finished := r'.finished + 1 }
  name : ∀ p, guide.Gives p → Alongside R E (addName mode p.name) (addName mode' p.name)
  identifier : ∀ name, Alongside R E (addIdentifier mode name) (addIdentifier mode' name)

namespace Lockstep

variable {R : Record → Record → Prop} {E : Failure → Failure → Prop} {guide guide' : Guide}
  {mode mode' : Mode}

section upTo

variable (h : Lockstep R E guide guide' mode mode')
include h

theorem happens (e : Event) (he : e.isAddition = false) :
    Alongside R E (Scan.happens e) (Scan.happens e) :=
  .happens (h.event e he)

theorem skip (importPaths : List Text) : Alongside R E (skip importPaths) (skip importPaths) :=
  .forM fun importPath _ => h.happens (.skipped importPath) rfl

theorem file {path : Path} (holds : guide.Holds path) :
    Alongside R E (file guide mode path) (file guide' mode' path) := by
  have asked : Alongside R E (ask (.extracted path) fun before => guide.extract before path)
      (ask (.extracted path) fun before => guide'.extract before path) :=
    .ask (h.extract path holds) (h.event _ rfl)
  refine asked.bind fun names _ => ?_
  exact .forM fun name _ => h.identifier name

theorem visit {s : Stop} (lists : guide.Lists s.importPath) :
    Alongside R E (visit guide s) (visit guide' s) := by
  refine (h.skip s.skipped).bind fun _ _ => ?_
  exact .ask (h.resolve s.importPath lists) (h.event _ rfl)

variable [Std.Refl E]

theorem package {p : Package} (gives : guide.Gives p) :
    Alongside R E (package guide mode p) (package guide' mode' p) := by
  refine (h.happens (.processing p.importPath) rfl).bind fun _ _ => ?_
  refine (h.name p gives).bind fun _ _ => ?_
  refine (Alongside.check p.filePaths).bind fun paths hpaths => ?_
  exact .forM fun path hpath => h.file ⟨p, paths, gives, hpaths.of_check, hpath⟩

theorem stop {s : Stop} (lists : guide.Lists s.importPath) :
    Alongside R E (stop guide mode s) (stop guide' mode' s) := by
  refine (h.visit lists).bind fun p hp => ?_
  have gives : guide.Gives p := by
    obtain ⟨-, -, hasked⟩ := hp.of_bind
    obtain ⟨before, hbefore⟩ := hasked.of_ask
    exact ⟨before, s.importPath, hbefore⟩
  have counted : Alongside R E (modify fun r => { r with finished := r.finished + 1 } : Scan Unit)
      (modify fun r => { r with finished := r.finished + 1 }) :=
    fun r r' hr => ⟨.ok (), h.finished r r' hr⟩
  refine (h.happens (.packageStarted p.importPath) rfl).bind fun _ _ => ?_
  refine (h.package gives).bind fun _ _ => ?_
  exact counted.bind fun _ _ => h.happens (.packageFinished p.importPath) rfl

theorem packages : Alongside R E (packages guide mode) (packages guide' mode') := by
  have asked : Alongside R E (Scan.list guide) (Scan.list guide') := by
    refine (Alongside.ask h.list (h.event _ rfl)).bind fun importPaths _ => ?_
    exact .pure _
  refine asked.bind fun way hway => ?_
  have lists : ∀ s ∈ way.stops, guide.Lists s.importPath := by
    intro s hs
    obtain ⟨importPaths, hlisted, hpure⟩ := hway.of_bind
    obtain ⟨before, hbefore⟩ := hlisted.of_ask
    obtain ⟨r, hr⟩ := hpure
    obtain rfl : Itinerary.ofList importPaths = way := Except.ok.inj hr
    refine ⟨before, importPaths, hbefore, ?_⟩
    rw [← importPath_stops_ofList]
    exact List.mem_map_of_mem hs
  have stopped : Alongside R E (way.stops.forM (Scan.stop guide mode))
      (way.stops.forM (Scan.stop guide' mode')) :=
    .forM fun s hs => h.stop (lists s hs)
  exact stopped.bind fun _ _ => h.skip way.rest

/-- **Two scans in lockstep** give the sets of related records, or fail with related failures, and
their traces are those of related records. -/
theorem run_upTo (further further' : List Text)
    (start : R (started mode further) (started mode' further')) :
    (∃ r r', R r r' ∧
      Scan.run guide mode further = ⟨.ok r.words,
        (.left none :: .scanFinished r.finished r.words.size :: r.events).reverse⟩ ∧
      Scan.run guide' mode' further' = ⟨.ok r'.words,
        (.left none :: .scanFinished r'.finished r'.words.size :: r'.events).reverse⟩) ∨
    ∃ f f' r r', E f f' ∧ R r r' ∧
      Scan.run guide mode further = ⟨.error f, (.left (some f) :: r.events).reverse⟩ ∧
      Scan.run guide' mode' further' = ⟨.error f', (.left (some f') :: r'.events).reverse⟩ := by
  obtain ⟨hresult, hrecord⟩ := h.packages _ _ start
  cases hp : (Scan.packages guide mode).perform (started mode further) with
  | mk result r =>
    cases hp' : (Scan.packages guide' mode').perform (started mode' further') with
    | mk result' r' =>
      rw [hp, hp'] at hresult hrecord
      cases hresult with
      | ok _ => exact .inl ⟨r, r', hrecord, run_of_ok hp, run_of_ok hp'⟩
      | error hf => exact .inr ⟨_, _, r, r', hf, hrecord, run_of_error hp, run_of_error hp'⟩

end upTo

/-- Where no failures but the same are related, two scans in lockstep fail with the same failure. -/
theorem run (h : Lockstep R Eq guide guide' mode mode') (further further' : List Text)
    (start : R (started mode further) (started mode' further')) :
    (∃ r r', R r r' ∧
      Scan.run guide mode further = ⟨.ok r.words,
        (.left none :: .scanFinished r.finished r.words.size :: r.events).reverse⟩ ∧
      Scan.run guide' mode' further' = ⟨.ok r'.words,
        (.left none :: .scanFinished r'.finished r'.words.size :: r'.events).reverse⟩) ∨
    ∃ f r r', R r r' ∧
      Scan.run guide mode further = ⟨.error f, (.left (some f) :: r.events).reverse⟩ ∧
      Scan.run guide' mode' further' = ⟨.error f, (.left (some f) :: r'.events).reverse⟩ := by
  obtain done | ⟨f, _, r, r', rfl, failed⟩ := h.run_upTo further further' start
  · exact .inl done
  · exact .inr ⟨f, r, r', failed⟩

/-- Two guides that answer all questions alike that are put to them lead to scans in lockstep. -/
theorem of_agree [Std.Refl E]
    (list : ∀ before, Except.AgreeUpTo E (guide.list before) (guide'.list before))
    (resolve : ∀ importPath, guide.Lists importPath → ∀ before,
      Except.AgreeUpTo E (guide.resolve before importPath) (guide'.resolve before importPath))
    (extract : ∀ path, guide.Holds path → ∀ before,
      Except.AgreeUpTo E (guide.extract before path) (guide'.extract before path)) :
    Lockstep Eq E guide guide' mode mode where
  list r _ h := h ▸ list r.events
  resolve importPath lists r _ h := h ▸ resolve importPath lists r.events
  extract path holds r _ h := h ▸ extract path holds r.events
  event _ _ _ _ h := h ▸ rfl
  finished _ _ h := h ▸ rfl
  name _ _ _ _ h := h ▸ ⟨.refl _, rfl⟩
  identifier _ _ _ h := h ▸ ⟨.refl _, rfl⟩

end Lockstep

/-! ## What a scan keeps -/

/-- A property of the words that survives the names of packages and the names in files is kept by a
whole scan. -/
theorem Lockstep.of_kept {guide : Guide} {mode : Mode} {P : WordSet → Prop}
    (hname : ∀ p, guide.Gives p → ∀ r : Record, P r.words →
      P ((addName mode p.name).perform r).2.words)
    (hwords : ∀ token s, P s → P (s.addAll (mode.words token))) :
    Lockstep (fun r r' => r = r' ∧ P r.words) Eq guide guide mode mode where
  list := by
    rintro r _ ⟨rfl, -⟩
    exact .refl _
  resolve := by
    rintro importPath - r _ ⟨rfl, -⟩
    exact .refl _
  extract := by
    rintro path - r _ ⟨rfl, -⟩
    exact .refl _
  event := by
    rintro e - r _ ⟨rfl, hr⟩
    exact ⟨rfl, hr⟩
  finished := by
    rintro r _ ⟨rfl, hr⟩
    exact ⟨rfl, hr⟩
  name p gives := by
    rintro r _ ⟨rfl, hr⟩
    exact ⟨.refl _, rfl, hname p gives _ hr⟩
  identifier name := by
    rintro r _ ⟨rfl, hr⟩
    refine ⟨.refl _, rfl, ?_⟩
    obtain ⟨r', hp, hw, -⟩ := perform_forM_addWord guide (mode.words name) r
    change P ((Scan.perform ((mode.words name).forM addWord) r).2.words)
    rw [hp, hw]
    exact hwords name r.words hr

/-- What is true of the first set, and is kept, is true of the set that a scan gives. -/
theorem of_run_of_kept {guide : Guide} {mode : Mode} {further : List Text} {s : WordSet}
    {P : WordSet → Prop} (start : P (seed mode further ∅))
    (hname : ∀ p, guide.Gives p → ∀ r : Record, P r.words →
      P ((addName mode p.name).perform r).2.words)
    (hwords : ∀ token s, P s → P (s.addAll (mode.words token)))
    (h : (run guide mode further).result = .ok s) : P s := by
  have started : P (started mode further).words := by
    rwa [words_started]
  obtain ⟨r, _, ⟨-, hr⟩, hrun, -⟩ | ⟨f, _, _, -, hrun, -⟩ :=
    (Lockstep.of_kept hname hwords).run further further ⟨rfl, started⟩
  · rw [hrun] at h
    exact Except.ok.inj h ▸ hr
  · rw [hrun] at h
    cases h

end Scan

end GoLexicon
