import GoLexicon.Proofs.CommandLine.AllOrNothing
import GoLexicon.Proofs.FileSystem.Atomicity
import GoLexicon.Proofs.Scan.Library
import GoLexicon.Proofs.Scan.SideBySide
import GoLexicon.Proofs.Text.Splitting
import GoLexicon.Proofs.Word.Values
/-!
# The strict word list

In the strict mode every word is one of small letters (`Text.IsSmallWord`), and a scan keeps this
wherever its words come from: the vocabulary, the further words, the names of packages, also those
that are no texts, and the names in files (`Scan.isSmall_run`).

So the text that shows the words of a strict scan has a simple grammar: lines with such words, in
ascending order. Cut at the ends of its lines it gives the words back, whether it has been printed
or written to a file.
-/

namespace GoLexicon

/-! ## Small letters -/

namespace CodePoint

variable {c : CodePoint}

theorem isSmall_iff : c.isSmall = true ↔ 0x61 ≤ c.val ∧ c.val ≤ 0x7A := by
  simp [isSmall]

theorem isSmall_toSmall (h : c.isLetter = true) : c.toSmall.isSmall = true := by
  unfold toSmall
  split
  · next hcapital =>
    have hrange : 0x41 ≤ c.val ∧ c.val ≤ 0x5A := by simpa [isCapital] using hcapital
    have hval : (ofNat (c.val + 0x20)).val = c.val + 0x20 := Nat.mod_eq_of_lt (by omega)
    rw [isSmall_iff, hval]
    omega
  · next hcapital => simpa [isLetter, hcapital] using h

theorem isSurrogate_of_isSmall (h : c.isSmall = true) : c.isSurrogate = false := by
  have hrange := isSmall_iff.1 h
  exact isSurrogate_eq_false (by omega)

theorem ne_newline_of_isSmall (h : c.isSmall = true) : c ≠ ofChar '\n' := by
  rintro rfl
  have newline : (ofChar '\n').isSmall = false := by decide +kernel
  rw [newline] at h
  cases h

end CodePoint

namespace Text

/-- A word of small letters, at least one. -/
def IsSmallWord (w : Text) : Prop := w ≠ [] ∧ ∀ c ∈ w, c.isSmall = true

variable {w : Text} {ws : List Text}

theorem IsSmallWord.newline_not_mem (h : w.IsSmallWord) : CodePoint.ofChar '\n' ∉ w :=
  fun hmem => CodePoint.ne_newline_of_isSmall (h.2 _ hmem) rfl

theorem newline_eq : ofString "\n" = [CodePoint.ofChar '\n'] := by decide +kernel

theorem splitAt_render (h : ∀ w ∈ ws, w.IsSmallWord) :
    splitAt '\n' (render ws) = ws ++ [[]] := by
  rw [render, newline_eq]
  exact splitAt_ended fun w hw => (h w hw).newline_not_mem

theorem isScalar_render (h : ∀ w ∈ ws, w.IsSmallWord) : (render ws).IsScalar := by
  intro c hc
  obtain ⟨w, hw, hc⟩ := List.mem_flatMap.1 hc
  rw [newline_eq] at hc
  rcases List.mem_append.1 hc with hc | hc
  · exact CodePoint.isSurrogate_of_isSmall ((h w hw).2 c hc)
  · rw [List.mem_singleton.1 hc]
    decide +kernel

end Text

theorem Mode.isSmallWord_of_mem_words {token w : Text} (h : w ∈ Mode.strict.words token) :
    w.IsSmallWord := by
  obtain ⟨run, rest, -, hne, hletters, -, rfl⟩ := Mode.mem_words.1 h
  refine ⟨by simpa using hne, fun c hc => ?_⟩
  obtain ⟨d, hd, rfl⟩ := List.mem_map.1 hc
  exact CodePoint.isSmall_toSmall (hletters d hd)

/-! ## The words of a strict scan -/

/-- All members of a set are words of small letters. -/
def WordSet.IsSmall (s : WordSet) : Prop := s.others = [] ∧ ∀ w ∈ s, w.IsSmallWord

theorem WordSet.IsSmall.addAll {s : WordSet} (h : s.IsSmall) {ws : List Text}
    (hws : ∀ w ∈ ws, w.IsSmallWord) : (s.addAll ws).IsSmall := by
  refine ⟨by rw [WordSet.others_addAll, h.1], fun w hw => ?_⟩
  rcases WordSet.mem_addAll.1 hw with hw | ⟨hw, -⟩
  · exact h.2 w hw
  · exact hws w hw

namespace Scan

variable {guide : Guide} {further : List Text} {s : WordSet}

theorem isSmall_seed (further : List Text) : (seed .strict further ∅).IsSmall := by
  have none : (∅ : WordSet).IsSmall := ⟨rfl, fun _ h => absurd h WordSet.not_mem_empty⟩
  refine none.addAll fun w hw => ?_
  obtain ⟨token, -, hw⟩ := List.mem_flatMap.1 hw
  exact Mode.isSmallWord_of_mem_words hw

/-- A name that is no text adds nothing in the strict mode. -/
theorem words_addName_strict (name : Json) (r : Record) :
    ((addName .strict name).perform r).2.words = r.words ∨
      ∃ t : Text, ((addName .strict name).perform r).2.words =
        r.words.addAll (Mode.strict.words t) := by
  unfold addName
  split
  · next t => exact .inr ⟨t, rfl⟩
  · next hmode _ => cases hmode
  · left
    split <;> rfl

/-- The words of a strict scan are words of small letters. -/
theorem isSmall_run (h : (run guide .strict further).result = .ok s) : s.IsSmall := by
  refine of_run_of_kept (isSmall_seed further) (fun p _ r hr => ?_) (fun token s hs => ?_) h
  · obtain hwords | ⟨t, hwords⟩ := words_addName_strict p.name r
    · rwa [hwords]
    · rw [hwords]
      exact hr.addAll fun w => Mode.isSmallWord_of_mem_words
  · exact hs.addAll fun w => Mode.isSmallWord_of_mem_words

end Scan

/-! ## The text -/

namespace CommandLine

variable {m : Machine} {s : WordSet} {ws : List Json} {text : Text}

theorem print_of_report (hreport : s.report = .ok (ws, text)) (scalar : text.IsScalar)
    (h : m.output = .utf8) : print m s = ⟨text.octets, m.files, .ok ()⟩ := by
  rw [print_eq hreport, h, StandardOutput.write_utf8 scalar, Except.mapError]

/-- Nothing but the destination can keep a list from being written. -/
theorem write_ok_iff {path : Path} (hreport : s.report = .ok (ws, text)) (scalar : text.IsScalar) :
    (write m path s).result = .ok () ↔ m.files.checkDestination m.writable path = .ok () ∧
      Replacement.IsUnhindered m.disturbance m.files path := by
  unfold write
  cases hcheck : m.files.checkDestination m.writable path with
  | error failure => simp
  | ok _ =>
    simp only [hreport, true_and]
    exact Replacement.run_ok_iff scalar

theorem write_of_report {path : Path} (hreport : s.report = .ok (ws, text))
    (scalar : text.IsScalar) (proper : m.files.here.IsProper)
    (h : (write m path s).result = .ok ()) :
    m.files.IsRewritten (write m path s).files path text.octets := by
  have hcheck := ((write_ok_iff hreport scalar).1 h).1
  simp only [write, hcheck, hreport] at h ⊢
  exact (Replacement.run_isAtomic m.disturbance path scalar proper).done h

/-- **The strict word list**: the text of a strict scan is made up of lines, each a word of small
letters with a line end behind it, in ascending order. Cut at the line ends it gives back the words
of the scan. This text is what the standard output is given, and in UTF-8 its octets are printed;
and they are what a file holds that it is written to. -/
theorem strict_report_is_word_list (guide : Guide) (further : List Text) (s : WordSet)
    (h : (Scan.run guide .strict further).result = .ok s) :
    ∃ (lines : List Text) (text : Text), s.report = .ok (lines.map .text, text) ∧
      text = lines.flatMap (· ++ [CodePoint.ofChar '\n']) ∧
      (∀ line ∈ lines, line ≠ [] ∧ ∀ c ∈ line, 'a'.toNat ≤ c.val ∧ c.val ≤ 'z'.toNat) ∧
      lines.Pairwise (· < ·) ∧
      Text.splitAt '\n' text = lines ++ [[]] ∧ s.others = [] ∧ (∀ w, w ∈ s ↔ w ∈ lines) ∧
      (∀ m, print m s = ⟨(m.output.write text).taken, m.files,
        (m.output.write text).result.mapError .fault⟩) ∧
      (∀ m, m.output = .utf8 → print m s = ⟨text.octets, m.files, .ok ()⟩) ∧
      ∀ m path, m.files.here.IsProper → (write m path s).result = .ok () →
        m.files.IsRewritten (write m path s).files path text.octets := by
  obtain ⟨hothers, hsmall⟩ := Scan.isSmall_run h
  have hreport := WordSet.report_of_others hothers
  have scalar : (render s.words).IsScalar := Text.isScalar_render hsmall
  refine ⟨s.words, render s.words, hreport, ?_, ?_, s.ascending, Text.splitAt_render hsmall,
    hothers, fun w => WordSet.mem_iff, print_eq hreport, fun m => print_of_report hreport scalar,
    fun m path => write_of_report hreport scalar⟩
  · rw [render, Text.newline_eq]
  · intro line hline
    obtain ⟨hne, hletters⟩ := hsmall line hline
    exact ⟨hne, fun c hc => CodePoint.isSmall_iff.1 (hletters c hc)⟩

/-- A machine with few files. -/
def crowdedMachine : Machine where
  files := Replacement.crowded
  program _ _ := .ended [] [] none
  settings := Path.parse "/settings.json"
  binaryVariable := none
  writable := true
  disturbance := Replacement.undisturbed
  parse := Go.parse
  output := .utf8

theorem strict_report_smallLibrary : ∃ s,
    (Scan.run (.of Scan.smallLibrary fun _ => .ok ["Println"]) .strict ["naïve"]).result = .ok s ∧
    ∃ (lines : List Text) (text : Text), Text.splitAt '\n' text = lines ++ [[]] ∧
      Text.ofString "println" ∈ lines ∧ (∀ w, w ∈ s ↔ w ∈ lines) ∧
      print crowdedMachine s = ⟨text.octets, Replacement.crowded, .ok ()⟩ ∧
      Replacement.crowded.IsRewritten (write crowdedMachine (Path.parse "out") s).files
        (Path.parse "out") text.octets := by
  obtain ⟨s, hs⟩ := (Scan.run_of_ok_iff Scan.isNamed_smallLibrary).2
    (Scan.isReadable_smallLibrary ["Println"])
  obtain ⟨lines, text, -, -, -, -, hsplit, -, hmem, -, hprint, hwrite⟩ :=
    strict_report_is_word_list _ ["naïve"] s hs
  have unhindered : Replacement.IsUnhindered Replacement.undisturbed Replacement.crowded
      (Path.parse "out") := ⟨fun _ => rfl, _, _, _, rfl, rfl⟩
  have written : (write crowdedMachine (Path.parse "out") s).result = .ok () := by
    obtain ⟨hothers, hsmall⟩ := Scan.isSmall_run hs
    exact (write_ok_iff (WordSet.report_of_others hothers) (Text.isScalar_render hsmall)).2
      ⟨by decide +kernel, unhindered⟩
  exact ⟨s, hs, lines, text, hsplit, (hmem _).1 (Scan.println_mem_run hs), hmem,
    hprint crowdedMachine rfl,
    hwrite crowdedMachine (Path.parse "out") Replacement.isProper_crowded written⟩

end CommandLine

end GoLexicon
