import GoLexicon.Proofs.CommandLine.AllOrNothing
import GoLexicon.Proofs.Progress.Display
/-!
# Diagnostics do not leak

Two command lines that give the same values (`valuesOf?`) and differ only in the flags for debug
output and for the display have the same effect, but for what goes to the error output
(`run_keeps_diagnostics_apart`). This rests on two facts: the flags decide nothing but what is told,
and a display never disturbs the scan that it follows.
-/

namespace GoLexicon.CommandLine

variable {m : Machine} {words words' : List Text} {o o' : Options} {r r' : Request}

/-! ## Flags -/

/-- Is an option a flag? -/
def Given.isFlag : Given → Bool
  | flag _ => true
  | value _ _ => false

/-- The options with values that the words of a command line give, in order. -/
def valuesOf? (words : List Text) : Option (List Given) :=
  (Given.ofWords? words).map fun gs => gs.filter (!·.isFlag)

/-- A word that gives flags only can be put in front of a command line. -/
theorem valuesOf?_cons {word : Text} {gs : List Given} (h : Word.parse word = .options gs)
    (flags : ∀ g ∈ gs, g.isFlag = true) : valuesOf? (word :: words) = valuesOf? words := by
  have none : gs.filter (!·.isFlag) = [] :=
    List.filter_eq_nil_iff.2 fun g hg => by simp [flags g hg]
  simp [valuesOf?, Given.ofWords?, h, Function.comp_def, none]

/-- Flags change no value. -/
theorem Options.value?_foldl (gs : List Given) (h : o.value? = o'.value?) :
    (gs.foldl add o).value? = ((gs.filter (!·.isFlag)).foldl add o').value? := by
  induction gs generalizing o o' with
  | nil => exact h
  | cons g gs ih =>
    rw [List.foldl_cons]
    cases g with
    | flag f => exact ih h
    | value p v =>
      refine ih ?_
      simp only [add, h]

theorem Options.value?_ofWords? (h : valuesOf? words = valuesOf? words') :
    (ofWords? words).map (·.value?) = (ofWords? words').map (·.value?) := by
  have values : ∀ words, (ofWords? words).map (·.value?) =
      (valuesOf? words).map fun gs => (ofGiven gs).value? := by
    intro words
    cases hgiven : Given.ofWords? words with
    | none => simp [ofWords?, valuesOf?, hgiven]
    | some gs =>
      simp only [ofWords?, valuesOf?, hgiven, Option.map_some]
      rw [ofGiven, ofGiven, value?_foldl gs rfl]
  rw [values, values, h]

/-! ## Requests -/

/-- A request without its flags. -/
def Request.unflagged (r : Request) : Request := { r with debug := false, quiet := false }

theorem Request.unflagged_ofOptions (h : o.value? = o'.value?) :
    (ofOptions m o).map unflagged = (ofOptions m o').map unflagged := by
  unfold ofOptions
  rw [h]
  cases (o'.value? .mode).mapM requestedMode with
  | error refusal => rfl
  | ok mode =>
    cases (o'.value? .output).mapM (requestedOutput m.files) with
    | error refusal => rfl
    | ok output =>
      cases (o'.value? .settings).mapM (requestedSettings m.files) with
      | error refusal => rfl
      | ok settings => rfl

theorem Request.unflagged_ofWords (h : valuesOf? words = valuesOf? words') :
    (ofWords m words).map unflagged = (ofWords m words').map unflagged := by
  have values := Options.value?_ofWords? h
  unfold ofWords
  cases ho : Options.ofWords? words with
  | none =>
    rw [ho] at values
    have ho' : Options.ofWords? words' = none := Option.map_eq_none_iff.1 values.symm
    rw [ho']
  | some o =>
    rw [ho] at values
    obtain ⟨o', ho', hvalues⟩ := Option.map_eq_some_iff.1 values.symm
    rw [ho']
    exact unflagged_ofOptions hvalues.symm

/-! ## Runs -/

/-- Two runs come to the same, but for what goes to the error output. -/
structure Outcome.AgreesWith (a b : Outcome) : Prop where
  status : a.status = b.status
  printed : a.printed = b.printed
  files : a.files = b.files
  escaped : a.escaped = b.escaped

theorem statusOf_mapError_eq_zero_iff {result : Except Fault Unit} :
    statusOf (result.mapError .fault) = 0 ↔ result = .ok () := by
  cases result with
  | ok done => exact iff_of_true rfl rfl
  | error fault => exact iff_of_false nofun nofun

namespace Plan

variable {p : Plan} {f : Failure} {W : WordSet}

theorem carryOut_of_error (h : (p.scan m).result = .error f) (r : Request) : p.carryOut r m =
    ⟨1, [], r.tellScan p (p.scan m) ++ (Notice.ofFailure f).printed, m.files, none⟩ := by
  have result : (if r.isDisplayed then followed (p.scan m) else (p.scan m).result) = .error f := by
    rw [scan, Scan.followed_run, ite_self]
    exact h
  simp only [carryOut, result, tellResult]

theorem carryOut_of_ok (h : (p.scan m).result = .ok W) (r : Request) : p.carryOut r m =
    ⟨statusOf (deliver m p.output W).result, (deliver m p.output W).printed,
      r.tellScan p (p.scan m) ++ r.tellWords W ++ tellResult (deliver m p.output W).result,
      (deliver m p.output W).files, none⟩ := by
  have result : (if r.isDisplayed then followed (p.scan m) else (p.scan m).result) = .ok W := by
    rw [scan, Scan.followed_run, ite_self]
    exact h
  simp only [carryOut, result]

/-- What a plan does, and with which result, does not depend on the flags. -/
theorem carryOut_agrees (p : Plan) (r r' : Request) (m : Machine) :
    (p.carryOut r m).AgreesWith (p.carryOut r' m) := by
  cases h : (p.scan m).result with
  | error f =>
    rw [carryOut_of_error h, carryOut_of_error h]
    exact ⟨rfl, rfl, rfl, rfl⟩
  | ok W =>
    rw [carryOut_of_ok h, carryOut_of_ok h]
    exact ⟨rfl, rfl, rfl, rfl⟩

/-- What is printed is what the standard output takes of the word list, or nothing. -/
theorem printed_carryOut (p : Plan) (r : Request) (m : Machine) :
    (p.carryOut r m).printed = [] ∨ ∃ W ws, (p.scan m).result = .ok W ∧ W.sorted = .ok ws ∧
      (p.carryOut r m).printed = (m.output.write (render (ws.map (·.plain)))).taken ∧
      ((p.carryOut r m).status = 0 ↔
        (m.output.write (render (ws.map (·.plain)))).result = .ok ()) := by
  cases h : (p.scan m).result with
  | error f =>
    rw [carryOut_of_error h]
    exact .inl rfl
  | ok W =>
    rw [carryOut_of_ok h]
    cases houtput : p.output with
    | some path =>
      left
      change (write m path W).printed = []
      unfold write
      split
      · rfl
      · split <;> rfl
    | none =>
      cases hreport : W.report with
      | error fault =>
        left
        simp only [deliver, print, hreport]
      | ok report =>
        obtain ⟨ws, text⟩ := report
        obtain ⟨hsorted, rfl⟩ := report_eq_ok hreport
        refine .inr ⟨W, ws, rfl, hsorted, ?_, ?_⟩
        · rw [deliver, print_eq hreport]
        · rw [deliver, print_eq hreport]
          exact statusOf_mapError_eq_zero_iff

end Plan

theorem Request.carryOut_agrees (h : r.unflagged = r'.unflagged) (m : Machine) :
    (r.carryOut m).AgreesWith (r'.carryOut m) := by
  obtain ⟨-, -, mode, binary, output, settings⟩ := (Request.mk.injEq ..).mp h
  have plans : Plan.of r = Plan.of r' := by
    funext s
    simp only [Plan.of, mode, binary, output]
  rw [carryOut, carryOut, settings, plans]
  split
  · exact ⟨rfl, rfl, rfl, rfl⟩
  · exact Plan.carryOut_agrees _ r r' m

theorem run_agrees (h : valuesOf? words = valuesOf? words') (m : Machine) :
    (run m words).AgreesWith (run m words') := by
  have requests := Request.unflagged_ofWords (m := m) h
  unfold run
  cases hr : Request.ofWords m words with
  | error refusal =>
    cases hr' : Request.ofWords m words' with
    | error refusal' =>
      rw [hr, hr'] at requests
      obtain rfl : refusal = refusal' := Except.error.inj requests
      exact ⟨rfl, rfl, rfl, rfl⟩
    | ok r' =>
      rw [hr, hr'] at requests
      exact nomatch requests
  | ok r =>
    cases hr' : Request.ofWords m words' with
    | error refusal' =>
      rw [hr, hr'] at requests
      exact nomatch requests
    | ok r' =>
      rw [hr, hr'] at requests
      exact Request.carryOut_agrees (Except.ok.inj requests) m

/-! ## Diagnostics -/

namespace Plan

variable {p : Plan} {f : Failure}

/-- What is noted while a plan is carried out, in order: the plan, the events of its scan, and how
many words this finds. -/
def notes (p : Plan) (m : Machine) : List Text :=
  p.shown :: (p.scan m).trace.filterMap Event.note? ++
    match (p.scan m).result with
    | .ok words => [Text.ofNat words.size ++ " distinct words"]
    | .error _ => []

/-- A plan fails where its scan does, or else the delivery of the words. -/
def FailsWith (p : Plan) (m : Machine) (f : Failure) : Prop :=
  (p.scan m).result = .error f ∨
    ∃ W, (p.scan m).result = .ok W ∧ (deliver m p.output W).result = .error f

/-- With debug output all notes are in the error output. -/
theorem notes_isPrefix (hdebug : r.debug = true) (p : Plan) (m : Machine) :
    (p.notes m).flatMap (Console.debugLine true) <+: (p.carryOut r m).errors := by
  -- no display is shown beside debug output
  have told : r.tellScan p (p.scan m) = (p.shown :: (p.scan m).trace.filterMap Event.note?).flatMap
      (Console.debugLine true) := by
    simp [Request.tellScan, Request.isDisplayed, hdebug, Console.debugTrace]
  cases h : (p.scan m).result with
  | error f =>
    rw [carryOut_of_error h, told, notes, h, List.append_nil]
    exact List.prefix_append _ _
  | ok W =>
    rw [carryOut_of_ok h, told, notes, h, List.flatMap_append, List.flatMap_singleton,
      Request.tellWords, hdebug]
    exact List.prefix_append _ _

/-- The notice on a failure is at the end of the error output. -/
theorem notice_isSuffix (h : p.FailsWith m f) (r : Request) :
    (p.carryOut r m).status = 1 ∧ (Notice.ofFailure f).printed <:+ (p.carryOut r m).errors := by
  obtain h | ⟨W, h, hdelivery⟩ := h
  · rw [carryOut_of_error h]
    exact ⟨rfl, List.suffix_append _ _⟩
  · rw [carryOut_of_ok h, hdelivery]
    exact ⟨rfl, List.suffix_append _ _⟩

end Plan

/-- **Diagnostics do not leak.** Command lines that differ in flags only come to the same status,
print the same, and leave the same files. Nothing is printed but the word list, as far as the
standard output takes it, and the run goes well if that takes the whole. The notes of debug output
are in the error output, and so is the notice where the settings, the scan or the delivery of the
words fails. -/
theorem run_keeps_diagnostics_apart (m : Machine) (words words' : List Text)
    (h : valuesOf? words = valuesOf? words') :
    (run m words).AgreesWith (run m words') ∧
    ((run m words).printed = [] ∨
      ∃ r s W ws, Request.ofWords m words = .ok r ∧
        Settings.load m.files m.files.read (r.settings.getD m.settings) = .ok s ∧
        ((Plan.of r s).scan m).result = .ok W ∧ W.sorted = .ok ws ∧
        (run m words).printed = (m.output.write (render (ws.map (·.plain)))).taken ∧
        ((run m words).status = 0 ↔
          (m.output.write (render (ws.map (·.plain)))).result = .ok ())) ∧
    ∀ r, Request.ofWords m words = .ok r →
      (∀ d, Settings.load m.files m.files.read (r.settings.getD m.settings) =
          .error (.diagnostic d) →
        (run m words).status = 1 ∧ (run m words).errors = (Notice.ofSettings d).printed) ∧
      ∀ s, Settings.load m.files m.files.read (r.settings.getD m.settings) = .ok s →
        (r.debug = true → ((Plan.of r s).notes m).flatMap (Console.debugLine true) <+:
          (run m words).errors) ∧
        ∀ f, (Plan.of r s).FailsWith m f →
          (run m words).status = 1 ∧ (Notice.ofFailure f).printed <:+ (run m words).errors := by
  have carried : ∀ {r s}, Request.ofWords m words = .ok r →
      Settings.load m.files m.files.read (r.settings.getD m.settings) = .ok s →
      run m words = (Plan.of r s).carryOut r m := by
    intro r s hr hs
    simp only [run, hr, Request.carryOut, hs]
  refine ⟨run_agrees h m, ?_, fun r hr => ⟨fun d hd => ?_, fun s hs => ?_⟩⟩
  · cases hr : Request.ofWords m words with
    | error refusal =>
      left
      simp only [run, hr]
      cases refusal <;> rfl
    | ok r =>
      cases hs : Settings.load m.files m.files.read (r.settings.getD m.settings) with
      | error failure =>
        left
        simp only [run, hr, Request.carryOut, hs]
        cases failure <;> rfl
      | ok s =>
        rw [carried hr hs]
        obtain hnone | ⟨W, ws, hW, hsorted, hprinted, hstatus⟩ :=
          (Plan.of r s).printed_carryOut r m
        · exact .inl hnone
        · exact .inr ⟨r, s, W, ws, rfl, hs, hW, hsorted, hprinted, hstatus⟩
  · simp only [run, hr, Request.carryOut, hd]
    exact ⟨rfl, rfl⟩
  · rw [carried hr hs]
    exact ⟨fun hdebug => Plan.notes_isPrefix hdebug _ m, fun f hf => Plan.notice_isSuffix hf r⟩

/-- With debug output the harvest of the one file is noted in the error output, and nothing else is
different. -/
theorem run_keeps_diagnostics_apart_smallMachine :
    valuesOf? [] = valuesOf? ["--debug", "-q"] ∧
    (run smallMachine []).AgreesWith (run smallMachine ["--debug", "-q"]) ∧
    Text.occursIn "adding 'Println'" (run smallMachine ["--debug", "-q"]).errors = true := by
  have debug : Word.parse "--debug" = .options [.flag .debug] := by rfl
  have quiet : Word.parse "-q" = .options [.flag .quiet] := by rfl
  have flags : valuesOf? [] = valuesOf? ["--debug", "-q"] :=
    ((valuesOf?_cons debug (by simp [Given.isFlag])).trans
      (valuesOf?_cons quiet (by simp [Given.isFlag]))).symm
  exact ⟨flags, (run_keeps_diagnostics_apart smallMachine [] ["--debug", "-q"] flags).1,
    by decide +kernel⟩

end GoLexicon.CommandLine
