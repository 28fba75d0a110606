import GoLexicon.CommandLine.Run
import GoLexicon.FileSystem.Building
import GoLexicon.Go.Source
import GoLexicon.Proofs.FileSystem.Replacement
/-!
# All or nothing

A run that carries out a request ends in one of two ways (`run_all_or_nothing`). With status 0 the
whole word list has gone to one place, the output file or the standard output, and the list is that
of the scan for the mode, the program and the further words which options, environment and settings
name between them (`Plan.Follows`). With status 1 nothing has been printed, and the output file is
as it was.

Nothing is asked here about why a step fails: each step either hands on what it has, or gives up
with the file system as it found it. The standard output is the one thing that no run can take back.
It may refuse a text, but where it breaks off in the middle of one (`StandardOutput.IsWhole` is what
rules this out) a part of the list is out, and this is the third way in which a run may end
(`Outcome.IsCutShort`).
-/

namespace GoLexicon.CommandLine

variable {m : Machine} {words : List Text} {o : Options} {r : Request}

/-! ## Requests and plans -/

theorem isSettled_settledPath (fs : FileSystem) (t : Text) : (settledPath fs t).IsSettled :=
  ⟨rfl, Path.up_not_mem_settle _⟩

/-- The settings file of a run. -/
def Machine.settingsPath (m : Machine) (o : Options) : Path :=
  ((o.value? .settings).map (settledPath m.files)).getD m.settings

/-- A plan follows some options and settings. -/
structure Plan.Follows (p : Plan) (m : Machine) (o : Options) (s : Settings) : Prop where
  /-- The mode is the one that is given. -/
  mode_given : ∀ t, o.value? .mode = some t → modeNamed? t = some p.mode
  /-- If no mode is given, it is that of the settings. -/
  mode_else : o.value? .mode = none → p.mode = s.mode
  /-- The program is the one that is given, or else the one that the environment names. -/
  binary_given : ∀ t, (o.value? .binary <|> m.binaryVariable) = some t → t ≠ [] → p.binary = t
  /-- If neither names one, or the name is empty, it is that of the settings. -/
  binary_else : (∀ t, (o.value? .binary <|> m.binaryVariable) = some t → t = []) →
    p.binary = s.binary
  extraWords : p.extraWords = s.extraWords
  output : p.output = (o.value? .output).map (settledPath m.files)

/-- What a request says of the options it was made from. -/
structure Request.IsOf (r : Request) (m : Machine) (o : Options) : Prop where
  mode_given : ∀ t, o.value? .mode = some t → ∃ mode, modeNamed? t = some mode ∧ r.mode = some mode
  mode_else : o.value? .mode = none → r.mode = none
  binary : r.binary = (o.value? .binary <|> m.binaryVariable.filter (· ≠ []))
  output : r.output = (o.value? .output).map (settledPath m.files)
  settings : r.settings = (o.value? .settings).map (settledPath m.files)

theorem eq_settledPath_of_standing {fs : FileSystem} {t : Text} {found : Path × Option Entry}
    (h : standing fs t = .ok found) : found.1 = settledPath fs t := by
  unfold standing at h
  split at h
  · cases h
  · split at h <;> exact Except.ok.inj h ▸ rfl

theorem eq_settledPath_of_requestedOutput {fs : FileSystem} {t : Text} {path : Path}
    (h : requestedOutput fs t = .ok path) : path = settledPath fs t := by
  obtain ⟨found, hfound, h⟩ := Except.bind_eq_ok_iff.1 h
  rw [← eq_settledPath_of_standing hfound]
  split at h
  · cases h
  · exact (Except.ok.inj h).symm

theorem eq_settledPath_of_requestedSettings {fs : FileSystem} {t : Text} {path : Path}
    (h : requestedSettings fs t = .ok path) : path = settledPath fs t := by
  obtain ⟨found, hfound, h⟩ := Except.bind_eq_ok_iff.1 h
  rw [← eq_settledPath_of_standing hfound]
  split at h
  · exact (Except.ok.inj h).symm
  · cases h

theorem eq_some_of_requestedMode {t : Text} {mode : Mode} (h : requestedMode t = .ok mode) :
    modeNamed? t = some mode := by
  unfold requestedMode at h
  split at h
  · next hm => exact hm.trans (congrArg some (Except.ok.inj h))
  · cases h

theorem Request.isOf_of_ofOptions (h : Request.ofOptions m o = .ok r) : r.IsOf m o := by
  obtain ⟨mode, hmode, h⟩ := Except.bind_eq_ok_iff.1 h
  obtain ⟨output, houtput, h⟩ := Except.bind_eq_ok_iff.1 h
  obtain ⟨settings, hsettings, h⟩ := Except.bind_eq_ok_iff.1 h
  obtain rfl := Except.ok.inj h
  have hmode := Except.option_mapM_eq_ok_iff.1 hmode
  refine ⟨fun t ht => ?_, fun hnone => ?_, rfl,
    Except.eq_map_of_option_mapM_eq_ok houtput fun _ _ => eq_settledPath_of_requestedOutput,
    Except.eq_map_of_option_mapM_eq_ok hsettings fun _ _ => eq_settledPath_of_requestedSettings⟩
  · obtain ⟨hn, -⟩ | ⟨a, b, ha, hb, rfl⟩ := hmode
    · exact nomatch ht.symm.trans hn
    · obtain rfl := Option.some.inj (ha.symm.trans ht)
      exact ⟨b, eq_some_of_requestedMode hb, rfl⟩
  · obtain ⟨-, rfl⟩ | ⟨a, b, ha, -, -⟩ := hmode
    · rfl
    · exact nomatch hnone.symm.trans ha

theorem Request.isOf_of_ofWords (h : Request.ofWords m words = .ok r) :
    ∃ o, Options.ofWords? words = some o ∧ r.IsOf m o := by
  unfold ofWords at h
  split at h
  · next o ho => exact ⟨o, ho, isOf_of_ofOptions h⟩
  · cases h

theorem filter_some_of_ne_nil {t : Text} (h : t ≠ []) : (some t).filter (· ≠ []) = some t := by
  simp [Option.filter, h]

/-- The plan of a request follows its options. -/
theorem Request.IsOf.follows (h : r.IsOf m o) (s : Settings) : (Plan.of r s).Follows m o s where
  mode_given t ht := by
    obtain ⟨mode, hmode, hr⟩ := h.mode_given t ht
    change modeNamed? t = some (r.mode.getD s.mode)
    rw [hr, hmode]
    rfl
  mode_else hnone := by
    change r.mode.getD s.mode = s.mode
    rw [h.mode_else hnone]
    rfl
  binary_given t ht hne := by
    change (r.binary.filter (· ≠ [])).getD s.binary = t
    rw [h.binary]
    cases hb : o.value? .binary with
    | some u =>
      rw [hb] at ht
      obtain rfl := Option.some.inj ht
      change ((some u).filter (· ≠ [])).getD s.binary = u
      rw [filter_some_of_ne_nil hne, Option.getD_some]
    | none =>
      rw [hb] at ht
      have hv : m.binaryVariable = some t := ht
      change ((m.binaryVariable.filter (· ≠ [])).filter (· ≠ [])).getD s.binary = t
      rw [hv, filter_some_of_ne_nil hne, filter_some_of_ne_nil hne, Option.getD_some]
  binary_else hempty := by
    change (r.binary.filter (· ≠ [])).getD s.binary = s.binary
    rw [h.binary]
    cases hb : o.value? .binary with
    | some u =>
      obtain rfl := hempty u (by rw [hb]; rfl)
      rfl
    | none =>
      cases hv : m.binaryVariable with
      | none => rfl
      | some u =>
        obtain rfl := hempty u (by rw [hb, hv]; rfl)
        rfl
  extraWords := rfl
  output := h.output

/-! ## The standard output -/

namespace StandardOutput

variable {s : StandardOutput} {t : Text}

/-- What is taken of a text is the beginning of what stands for it, and the whole of this where the
output does not break off. -/
theorem write_cases (s : StandardOutput) (t : Text) :
    (∃ content, s.encode t = .ok content ∧ s.write t = ⟨content, .ok ()⟩) ∨
    ∃ fault, (s.write t).result = .error fault ∧ ((s.write t).taken = [] ∨
      ∃ content, s.encode t = .ok content ∧ (s.write t).taken <+: content) := by
  unfold write
  cases s.encode t with
  | error fault => exact .inr ⟨fault, rfl, .inl rfl⟩
  | ok content =>
    cases hbreak : s.breaksOff? content with
    | none => exact .inl ⟨content, rfl, by simp only [hbreak]⟩
    | some broken =>
      obtain ⟨count, fault⟩ := broken
      simp only [hbreak]
      exact .inr ⟨fault, rfl, .inr ⟨content, rfl, List.take_prefix _ _⟩⟩

/-- In UTF-8 the octets of a text are printed, if it can be encoded. -/
theorem write_utf8 (scalar : t.IsScalar) : utf8.write t = ⟨t.octets, .ok ()⟩ := by
  have encoded : t.encode = .ok t.octets := Text.encode_eq_ok_iff.2 ⟨scalar, rfl⟩
  simp only [write, utf8, encoded, Except.mapError]

end StandardOutput

/-! ## The delivery -/

/-- A text has been delivered as a whole: to an output file, or to the standard output. -/
def IsDelivered (m : Machine) (text : Text) (printed : Bytes) (files : FileSystem) :
    Option Path → Prop
  | none => m.output.encode text = .ok printed ∧ files = m.files
  | some path => printed = [] ∧ text.IsScalar ∧ m.files.IsReplaced files path text.octets

/-- Nothing has come of a run: nothing is printed, and what an output file holds is as it was. -/
def IsWithheld (m : Machine) (printed : Bytes) (files : FileSystem) : Option Path → Prop
  | none => printed = [] ∧ files = m.files
  | some path => printed = [] ∧ m.files.IsKept files path

/-- The standard output has broken off in a text: what it has taken is the beginning of the octets
of the text. There is no output file. -/
structure IsBrokenOff (m : Machine) (text : Text) (printed : Bytes) (files : FileSystem)
    (output : Option Path) : Prop where
  unnamed : output = none
  broken : ∃ fault, m.output.write text = ⟨printed, .error fault⟩
  beginning : ∃ content, m.output.encode text = .ok content ∧ printed <+: content ∧ printed ≠ []
  files : files = m.files

theorem isWithheld_of_untouched (m : Machine) (output : Option Path) :
    IsWithheld m [] m.files output := by
  cases output with
  | none => exact ⟨rfl, rfl⟩
  | some path => exact ⟨rfl, .refl _ path⟩

theorem report_eq_ok {W : WordSet} {ws : List Json} {text : Text}
    (h : W.report = .ok (ws, text)) : W.sorted = .ok ws ∧ text = render (ws.map (·.plain)) := by
  obtain ⟨vs, hvs, h⟩ := Except.bind_eq_ok_iff.1 h
  obtain ⟨rfl, rfl⟩ := Prod.mk.inj (Except.ok.inj h)
  exact ⟨hvs, rfl⟩

/-- A text shows the words of a set in order. -/
def IsListOf (W : WordSet) (text : Text) : Prop :=
  ∃ ws, W.sorted = .ok ws ∧ text = render (ws.map (·.plain))

/-- How a delivery ends: the word list is delivered as a whole, or withheld, or the standard output
breaks off in it. -/
def Delivery.Ends (d : Delivery) (m : Machine) (W : WordSet) (output : Option Path) : Prop :=
  (d.result = .ok () ∧ ∃ text, IsListOf W text ∧ IsDelivered m text d.printed d.files output) ∨
  ∃ f, d.result = .error f ∧ (IsWithheld m d.printed d.files output ∨
    ∃ text, IsListOf W text ∧ IsBrokenOff m text d.printed d.files output)

/-- The text of a report is printed as far as the standard output takes it. -/
theorem print_eq {W : WordSet} {ws : List Json} {text : Text} (h : W.report = .ok (ws, text))
    (m : Machine) : print m W =
      ⟨(m.output.write text).taken, m.files, (m.output.write text).result.mapError .fault⟩ := by
  simp only [print, h]

theorem print_ends (m : Machine) (W : WordSet) : (print m W).Ends m W none := by
  cases hreport : W.report with
  | error fault =>
    simp only [print, hreport]
    exact .inr ⟨_, rfl, .inl (isWithheld_of_untouched m none)⟩
  | ok report =>
    obtain ⟨ws, text⟩ := report
    have list : IsListOf W text := ⟨ws, report_eq_ok hreport⟩
    rw [print_eq hreport]
    obtain ⟨content, hencode, hwrite⟩ | ⟨fault, hresult, htaken⟩ := m.output.write_cases text
    · rw [hwrite]
      exact .inl ⟨rfl, text, list, hencode, rfl⟩
    · have hwrite : m.output.write text = ⟨(m.output.write text).taken, .error fault⟩ := by
        rw [← hresult]
      refine .inr ⟨.fault fault, by rw [hresult, Except.mapError], ?_⟩
      by_cases hnone : (m.output.write text).taken = []
      · exact .inl ⟨hnone, rfl⟩
      · obtain ⟨content, hencode, hprefix⟩ := htaken.resolve_left hnone
        exact .inr ⟨text, list, rfl, ⟨fault, hwrite⟩, ⟨content, hencode, hprefix, hnone⟩, rfl⟩

theorem write_ends (m : Machine) {path : Path} (settled : path.IsSettled) (W : WordSet) :
    (write m path W).Ends m W (some path) := by
  unfold write
  split
  · exact .inr ⟨_, rfl, .inl (isWithheld_of_untouched m _)⟩
  · split
    · exact .inr ⟨_, rfl, .inl (isWithheld_of_untouched m _)⟩
    · next ws text hreport =>
      obtain ⟨hsorted, rfl⟩ := report_eq_ok hreport
      obtain ⟨ends, scalar⟩ := Replacement.run_ends m.disturbance m.files path
        (render (ws.map (·.plain))) settled
      obtain ⟨done, replaced⟩ | ⟨f, failed, kept⟩ := ends
      · exact .inl ⟨done, _, ⟨ws, hsorted, rfl⟩, rfl, scalar done, replaced⟩
      · exact .inr ⟨f, failed, .inl ⟨rfl, kept⟩⟩

theorem deliver_ends (m : Machine) (output : Option Path) (W : WordSet)
    (settled : ∀ path, output = some path → path.IsSettled) :
    (deliver m output W).Ends m W output := by
  cases output with
  | none => exact print_ends m W
  | some path => exact write_ends m (settled path rfl) W

/-! ## The run -/

/-- What a display shows does not change the result of a scan that goes well. -/
theorem result_of_followed {displayed : Bool} {s : Scan.Outcome} {W : WordSet}
    (h : (if displayed then followed s else s.result) = .ok W) : s.result = .ok W := by
  cases displayed with
  | false => exact h
  | true =>
    change followed s = .ok W at h
    unfold followed at h
    split at h
    · exact h
    · cases h

theorem carryOut_ends (p : Plan) (r : Request) (m : Machine)
    (settled : ∀ path, p.output = some path → path.IsSettled) :
    ((p.carryOut r m).status = 0 ∧ ∃ W text, (p.scan m).result = .ok W ∧ IsListOf W text ∧
      IsDelivered m text (p.carryOut r m).printed (p.carryOut r m).files p.output) ∨
    (p.carryOut r m).status = 1 ∧
      (IsWithheld m (p.carryOut r m).printed (p.carryOut r m).files p.output ∨
        ∃ W text, (p.scan m).result = .ok W ∧ IsListOf W text ∧
          IsBrokenOff m text (p.carryOut r m).printed (p.carryOut r m).files p.output) := by
  cases hres : if r.isDisplayed then followed (p.scan m) else (p.scan m).result with
  | error failure =>
    simp only [Plan.carryOut, hres]
    exact .inr ⟨trivial, .inl (isWithheld_of_untouched m _)⟩
  | ok W =>
    simp only [Plan.carryOut, hres]
    have hW := result_of_followed hres
    obtain ⟨done, text, list, delivered⟩ | ⟨f, failed, withheld | ⟨text, list, broken⟩⟩ :=
      deliver_ends m p.output W settled
    · exact .inl ⟨by simp only [done, statusOf], W, text, hW, list, delivered⟩
    · exact .inr ⟨by simp only [failed, statusOf], .inl withheld⟩
    · exact .inr ⟨by simp only [failed, statusOf], .inr ⟨W, text, hW, list, broken⟩⟩

/-- The output file that some options name. -/
def Machine.outputPath (m : Machine) (o : Options) : Option Path :=
  (o.value? .output).map (settledPath m.files)

/-- A machine has a word list for some options: the settings can be loaded, a plan follows them and
the options, its scan goes well, and the text shows the words in order. -/
def Machine.HasList (m : Machine) (o : Options) (text : Text) : Prop :=
  ∃ (s : Settings) (p : Plan) (W : WordSet),
    Settings.load m.files m.files.read (m.settingsPath o) = .ok s ∧ p.Follows m o s ∧
    (p.scan m).result = .ok W ∧ IsListOf W text

namespace Outcome

/-- A run ends well, and the whole word list has gone to one place. -/
def Delivers (out : Outcome) (m : Machine) (o : Options) : Prop :=
  out.status = 0 ∧ ∃ text, m.HasList o text ∧
    IsDelivered m text out.printed out.files (m.outputPath o)

/-- A run fails, and nothing has come of it. -/
def Withholds (out : Outcome) (m : Machine) (o : Options) : Prop :=
  out.status = 1 ∧ IsWithheld m out.printed out.files (m.outputPath o)

/-- A run fails, since the standard output breaks off in the word list. -/
def IsCutShort (out : Outcome) (m : Machine) (o : Options) : Prop :=
  out.status = 1 ∧ ∃ text, m.HasList o text ∧
    IsBrokenOff m text out.printed out.files (m.outputPath o)

end Outcome

theorem run_ends (h : Request.ofWords m words = .ok r) :
    ∃ o, Options.ofWords? words = some o ∧ ((run m words).Delivers m o ∨
      (run m words).Withholds m o ∨ (run m words).IsCutShort m o) := by
  obtain ⟨o, ho, hr⟩ := Request.isOf_of_ofWords h
  have settled : ∀ path, m.outputPath o = some path → path.IsSettled := by
    intro path hpath
    obtain ⟨t, -, rfl⟩ := Option.map_eq_some_iff.1 hpath
    exact isSettled_settledPath m.files t
  have hrun : run m words = r.carryOut m := by rw [run, h]
  have hpath : r.settings.getD m.settings = m.settingsPath o := by
    rw [hr.settings, Machine.settingsPath]
  refine ⟨o, ho, ?_⟩
  rw [hrun, Request.carryOut, hpath]
  cases hs : Settings.load m.files m.files.read (m.settingsPath o) with
  | error failure =>
    cases failure <;> exact .inr (.inl ⟨rfl, isWithheld_of_untouched m _⟩)
  | ok s =>
    have follows := hr.follows s
    have output : (Plan.of r s).output = m.outputPath o := follows.output
    obtain ⟨done, W, text, hW, list, delivered⟩ |
        ⟨failed, withheld | ⟨W, text, hW, list, broken⟩⟩ :=
      carryOut_ends (Plan.of r s) r m (output ▸ settled)
    · exact .inl ⟨done, text, ⟨s, _, W, hs, follows, hW, list⟩, output ▸ delivered⟩
    · exact .inr (.inl ⟨failed, output ▸ withheld⟩)
    · exact .inr (.inr ⟨failed, text, ⟨s, _, W, hs, follows, hW, list⟩, output ▸ broken⟩)

/-- A machine whose toolchain has a package with one file, and an internal one, and whose settings
name the mode and a further word. -/
def smallMachine : Machine where
  files := .ofFiles ["w"] [
    (["settings"], Text.octets "\x7b\"mode\": \"verbatim\", \"extra_words\": [\"naïve\"]\x7d"),
    (["print.go"], Text.octets "package fmt\n\nfunc Println() \x7b\x7d\n"),
    (["go.dic"], Text.octets "old\n")]
  program binary words :=
    if binary ≠ "go1.22" then .refused .missing
    else if words.length = 2 then .ended (Text.octets "fmt\ninternal/abi\n") [] none
    else
      .ended (Text.octets "\x7b\"Dir\": \"/w\", \"Name\": \"fmt\", \"GoFiles\": [\"print.go\"]\x7d")
        [] none
  parse := Go.parse
  settings := Path.parse "/w/settings"
  binaryVariable := some "go1.22"
  writable := true
  disturbance := Replacement.undisturbed
  output := .utf8

end GoLexicon.CommandLine
