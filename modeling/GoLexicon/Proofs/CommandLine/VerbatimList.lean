import GoLexicon.Proofs.CommandLine.StrictList
import GoLexicon.Proofs.Scan.Reordering
import GoLexicon.Proofs.Settings
/-!
# The verbatim word list

In the verbatim mode words are tokens as they came, and the text that shows them has a line end
behind each of them. Cut at its line ends it gives the words back exactly if no word has a line end
in it (`WordSet.isListed_iff`).

The vocabulary has no such words, but nothing keeps them from coming from outside: as further words,
as names of packages, and as names in files. So a word list is one word to the line exactly if none
of these has a line end in it (`CommandLine.verbatim_report_is_word_list_iff`). A settings file may
list a word of two lines, and it is accepted.
-/

namespace GoLexicon

/-! ## Lines -/

namespace Text

/-- A text without a line end in it. -/
def IsLine (t : Text) : Prop := CodePoint.ofChar '\n' ∉ t

instance (t : Text) : Decidable t.IsLine := inferInstanceAs (Decidable (¬ _ ∈ t))

/-- What a text is cut into has no separator in it. -/
theorem not_mem_of_mem_splitAt {separator : CodePoint} {t part : Text}
    (h : part ∈ splitAt separator t) : separator ∉ part := by
  induction t generalizing part with
  | nil =>
    rw [List.mem_singleton.1 h]
    exact List.not_mem_nil
  | cons c t ih =>
    rw [splitAt] at h
    split at h
    · rcases List.mem_cons.1 h with rfl | h
      · exact List.not_mem_nil
      · exact ih h
    · next hc =>
      split at h
      · rw [List.mem_singleton.1 h, List.mem_singleton]
        exact Ne.symm hc
      · next first parts hparts =>
        rcases List.mem_cons.1 h with rfl | h
        · have hfirst : separator ∉ first := ih (by simp [hparts])
          simp [Ne.symm hc, hfirst]
        · exact ih (by simp [hparts, h])

/-- The lines of a list are its words exactly if each word is a line. -/
theorem splitAt_render_iff {ws : List Text} :
    splitAt '\n' (render ws) = ws ++ [[]] ↔ ∀ w ∈ ws, w.IsLine := by
  constructor
  · intro h w hw
    exact not_mem_of_mem_splitAt (t := render ws) (by simp [h, hw])
  · intro h
    rw [render, newline_eq]
    exact splitAt_ended h

end Text

/-- The report of a set shows its members and nothing else, in ascending order and a line for
each. -/
def WordSet.IsListed (s : WordSet) : Prop :=
  ∃ (lines : List Text) (text : Text), s.report = .ok (lines.map .text, text) ∧
    Text.splitAt '\n' text = lines ++ [[]] ∧ lines.Pairwise (· < ·) ∧ s.others = [] ∧
    ∀ w, w ∈ s ↔ w ∈ lines

theorem WordSet.isListed_iff {s : WordSet} :
    s.IsListed ↔ s.others = [] ∧ ∀ w ∈ s, w.IsLine := by
  constructor
  · rintro ⟨lines, text, hreport, hsplit, -, hothers, hmem⟩
    obtain ⟨-, rfl⟩ := Prod.mk.inj (Except.ok.inj ((report_of_others hothers).symm.trans hreport))
    refine ⟨hothers, fun w hw => ?_⟩
    exact Text.not_mem_of_mem_splitAt (t := render s.words) (by simp [hsplit, (hmem w).1 hw])
  · rintro ⟨hothers, hlines⟩
    exact ⟨s.words, render s.words, report_of_others hothers, Text.splitAt_render_iff.2 hlines,
      s.ascending, hothers, fun w => mem_iff⟩

theorem WordSet.mem_of_addValue {s t : WordSet} {v : Json} {w : Text} (h : s.addValue v = .ok t)
    (hw : w ∈ s) : w ∈ t := by
  unfold addValue at h
  split at h
  · rw [← Except.ok.inj h]
    exact mem_add.2 (.inl hw)
  · repeat' split at h
    all_goals cases h
    all_goals exact hw

/-! ## The words of a verbatim scan -/

/-- If the members of a set are those tokens from some source that are not empty, they are lines
exactly if all tokens from the source are. -/
theorem WordSet.forall_isLine_iff {s : WordSet} {source : Text → Prop}
    (h : ∀ w, w ∈ s ↔ ∃ token, Mode.verbatim.IsFormOf w token ∧ source token) :
    (∀ w ∈ s, w.IsLine) ↔ ∀ token, source token → token.IsLine := by
  constructor
  · intro lines token htoken
    by_cases hne : token = []
    · rw [hne]
      exact List.not_mem_nil
    · exact lines token ((h token).2 ⟨token, ⟨hne, rfl⟩, htoken⟩)
  · intro lines w hw
    obtain ⟨token, ⟨-, rfl⟩, htoken⟩ := (h w).1 hw
    exact lines w htoken

namespace Scan

variable {guide : Guide} {c : Catalog} {extract : Extractor} {further : List Text} {s : WordSet}

/-- No word of the vocabulary has a line end in it. -/
theorem isLine_vocabulary : ∀ token ∈ Vocabulary.tokens [], token.IsLine := by
  decide +kernel

theorem isLine_tokens_iff :
    (∀ token ∈ Vocabulary.tokens further, token.IsLine) ↔ ∀ token ∈ further, token.IsLine := by
  have split : Vocabulary.tokens further = Vocabulary.tokens [] ++ further := by
    simp [Vocabulary.tokens]
  rw [split, List.forall_mem_append]
  exact and_iff_right isLine_vocabulary

/-- The name of a package takes no word away, whatever it is. -/
theorem mem_words_addName {mode : Mode} {w : Text} {r : Record} (name : Json) (h : w ∈ r.words) :
    w ∈ ((addName mode name).perform r).2.words := by
  unfold addName
  split
  · exact WordSet.mem_addAll.2 (.inl h)
  · cases hv : r.words.addValue name with
    | ok words =>
      rw [perform_get_bind, hv]
      exact WordSet.mem_of_addValue hv h
    | error fault =>
      rw [perform_get_bind, hv]
      exact h
  · split <;> exact h

/-- What is in the set at the start is in the set at the end. -/
theorem mem_run_of_mem_seed {mode : Mode} {w : Text} (hw : w ∈ seed mode further ∅)
    (h : (run guide mode further).result = .ok s) : w ∈ s :=
  of_run_of_kept (P := (w ∈ ·)) hw (fun p _ _ hr => mem_words_addName p.name hr)
    (fun _ _ hs => WordSet.mem_addAll.2 (.inl hs)) h

/-- A verbatim scan whose packages are named gives a list of lines exactly if no token that comes
from outside has a line end in it. -/
theorem isListed_run_iff (named : guide.IsNamed)
    (h : (run guide .verbatim further).result = .ok s) :
    s.IsListed ↔ (∀ token ∈ further, token.IsLine) ∧
      ∀ token, Occurs token ((run guide .verbatim further).dialogue guide) → token.IsLine := by
  rw [WordSet.isListed_iff, and_iff_right (others_run named h),
    WordSet.forall_isLine_iff (mem_run named h), ← isLine_tokens_iff]
  simp only [or_imp, forall_and]

/-- Where answers are fixed, also packages without a name that is a text count. -/
theorem isListed_run_of_iff (h : (run (.of c extract) .verbatim further).result = .ok s) :
    s.IsListed ↔ (∀ token ∈ further, token.IsLine) ∧
      ∀ v, c.Brings extract v → v.isOther = false ∧ ∀ token, v = .text token → token.IsLine := by
  obtain ⟨-, s', hs, gains⟩ | ⟨-, f, hf⟩ := run_gains c .verbatim extract further
  · obtain rfl : s = s' := Except.ok.inj (h.symm.trans hs)
    have members : ∀ w, w ∈ s ↔ ∃ token, Mode.verbatim.IsFormOf w token ∧
        (token ∈ Vocabulary.tokens further ∨ c.Brings extract (.text token)) := by
      intro w
      rw [gains.words, mem_seed]
      simp only [Mode.mem_words]
      constructor
      · rintro (⟨token, htoken, hw⟩ | ⟨token, hbrought, hw⟩)
        · exact ⟨token, hw, .inl htoken⟩
        · exact ⟨token, hw, .inr hbrought⟩
      · rintro ⟨token, hw, htoken | hbrought⟩
        · exact .inl ⟨token, htoken, hw⟩
        · exact .inr ⟨token, hbrought, hw⟩
    have plain : s.others = [] ↔ ∀ v, c.Brings extract v → v.isOther = false := by
      rw [gains.plain, seed, WordSet.others_addAll]
      exact and_iff_right rfl
    rw [WordSet.isListed_iff, plain, WordSet.forall_isLine_iff members, ← isLine_tokens_iff]
    constructor
    · rintro ⟨none, lines⟩
      refine ⟨fun token htoken => lines token (.inl htoken), fun v hv => ⟨none v hv, ?_⟩⟩
      rintro token rfl
      exact lines token (.inr hv)
    · rintro ⟨lines, brought⟩
      refine ⟨fun v hv => (brought v hv).1, ?_⟩
      rintro token (htoken | hv)
      · exact lines token htoken
      · exact (brought _ hv).2 token rfl
  · cases h.symm.trans hf

end Scan

namespace CommandLine

/-- **The verbatim word list** has one word to the line exactly if no member of the set has a line
end in it, and that is: no further word, no name of a package and no name in a file. A package whose
name is no text, and says something, keeps the set from being a list. The text of a report is made
up of the members in ascending order, with a line end behind each. The standard output is given this
text, and in UTF-8 its octets are printed; and they are what a file holds that it is written to. -/
theorem verbatim_report_is_word_list_iff (guide : Guide) (further : List Text) (s : WordSet)
    (h : (Scan.run guide .verbatim further).result = .ok s) :
    (s.IsListed ↔ s.others = [] ∧ ∀ w ∈ s, w.IsLine) ∧
    (guide.IsNamed → (s.IsListed ↔ (∀ token ∈ further, token.IsLine) ∧
      ∀ token, Occurs token ((Scan.run guide .verbatim further).dialogue guide) → token.IsLine)) ∧
    (∀ c extract, guide = .of c extract → (s.IsListed ↔ (∀ token ∈ further, token.IsLine) ∧
      ∀ v, c.Brings extract v → v.isOther = false ∧ ∀ token, v = .text token → token.IsLine)) ∧
    (∀ ws text, s.report = .ok (ws, text) → ws = s.words.map .text ∧
      text = s.words.flatMap (· ++ [CodePoint.ofChar '\n']) ∧
      (∀ m, print m s = ⟨(m.output.write text).taken, m.files,
        (m.output.write text).result.mapError .fault⟩) ∧ (text.IsScalar →
        (∀ m, m.output = .utf8 → print m s = ⟨text.octets, m.files, .ok ()⟩) ∧
        ∀ m path, m.files.here.IsProper → (write m path s).result = .ok () →
          m.files.IsRewritten (write m path s).files path text.octets)) := by
  refine ⟨WordSet.isListed_iff, fun named => Scan.isListed_run_iff named h, ?_, ?_⟩
  · rintro c extract rfl
    exact Scan.isListed_run_of_iff h
  · intro ws text hreport
    have hne : s.words ≠ [] := List.ne_nil_of_mem (Scan.mem_run_of_mem_seed Scan.mem_seed_break h)
    obtain ⟨-, hshown⟩ := (WordSet.report_eq_ok_iff hne).1 hreport
    obtain ⟨rfl, rfl⟩ := Prod.mk.inj hshown
    refine ⟨rfl, by rw [render, Text.newline_eq], print_eq hreport, fun scalar => ?_⟩
    exact ⟨fun m => print_of_report hreport scalar, fun m path => write_of_report hreport scalar⟩

theorem verbatim_report_smallLibrary : ∃ s,
    (Scan.run (.of Scan.smallLibrary fun _ => .ok ["Println"]) .verbatim ["naïve"]).result = .ok s ∧
    (∀ v, Scan.smallLibrary.Brings (fun _ => .ok ["Println"]) v →
      v.isOther = false ∧ ∀ token, v = .text token → token.IsLine) ∧ s.IsListed := by
  obtain ⟨s, hs⟩ := (Scan.run_of_ok_iff Scan.isNamed_smallLibrary).2
    (Scan.isReadable_smallLibrary ["Println"])
  obtain ⟨-, -, fixed, -⟩ := verbatim_report_is_word_list_iff _ ["naïve"] s hs
  have texts : ∀ t ∈ (["fmt", "Println"] : List Text), t.IsLine := by decide +kernel
  have brought : ∀ v, Scan.smallLibrary.Brings (fun _ => .ok ["Println"]) v →
      v.isOther = false ∧ ∀ token, v = .text token → token.IsLine := by
    rintro v ⟨p, ⟨_, -, _, -, ⟨⟩⟩, rfl | ⟨_, names, -, ⟨⟩, name, hname, rfl⟩⟩
    · exact ⟨rfl, fun token h => Json.text.inj h ▸ texts "fmt" (by simp)⟩
    · obtain rfl := List.mem_singleton.1 hname
      exact ⟨rfl, fun token h => Json.text.inj h ▸ texts "Println" (by simp)⟩
  exact ⟨s, hs, brought, (fixed _ _ rfl).2 ⟨by decide +kernel, brought⟩⟩

/-- The members of settings with a word of two lines. -/
def twoLines : List (Text × Json) :=
  [("mode", .text "verbatim"), ("extra_words", .list [.text "two\nlines"])]

/-- A file system with a file of these settings. -/
def twoLinesPlaced : FileSystem := Settings.placed (.file (Json.written (.object twoLines)).octets)

theorem load_twoLines : Settings.load twoLinesPlaced twoLinesPlaced.read (Path.parse "settings") =
    .ok ⟨.verbatim, "go", ["two\nlines"]⟩ := by
  have plain : Json.IsPlain 2 (.object twoLines) := by
    have list : Json.IsPlain 1 (.list [.text "two\nlines"]) :=
      .list (List.forall_mem_singleton.2 (.text (Text.isScalar_ofString _)))
    refine .object (by decide) ?_ ?_
    · exact List.forall_mem_cons.2
        ⟨Text.isScalar_ofString _, List.forall_mem_singleton.2 (Text.isScalar_ofString _)⟩
    · exact List.forall_mem_cons.2
        ⟨.text (Text.isScalar_ofString _), List.forall_mem_singleton.2 list⟩
  have checked : (Json.written (.object twoLines)).all (!·.isSurrogate) = true := by decide
  have scalar : (Json.written (.object twoLines)).IsScalar :=
    fun c hc => by simpa using List.all_eq_true.1 checked c hc
  have said : Settings.IsOf ⟨.verbatim, "go", ["two\nlines"]⟩ twoLines :=
    ⟨.inr ⟨"verbatim", rfl, rfl⟩, .inl ⟨rfl, rfl⟩, .inr rfl⟩
  refine Settings.load_eq_ok_iff.2 (.inr ⟨_, _, twoLines, Settings.locate_placed _, ?_, said⟩)
  rw [Text.decodeReplacing_of_decode (Text.decode_eq_ok_iff.2 ⟨scalar, rfl⟩)]
  exact Json.read_of_isDocumentOf plain (by decide) (Json.isDocumentOf_writtenWith _ plain)

/-- Settings are accepted with a word of two lines, and then the list has a line that is no word. -/
theorem not_isListed_twoLines : ∃ settings s,
    Settings.load twoLinesPlaced twoLinesPlaced.read (Path.parse "settings") = .ok settings ∧
    (Scan.run (.of Scan.smallLibrary fun _ => .ok ["Println"]) settings.mode
      settings.extraWords).result = .ok s ∧ ¬ s.IsListed := by
  obtain ⟨s, hs⟩ := (Scan.run_of_ok_iff Scan.isNamed_smallLibrary).2
    (Scan.isReadable_smallLibrary ["Println"])
  refine ⟨_, s, load_twoLines, hs, fun listed => ?_⟩
  obtain ⟨lines, -⟩ := (Scan.isListed_run_of_iff hs).1 listed
  exact absurd (lines _ (List.mem_singleton_self _)) (by decide +kernel)

end CommandLine

end GoLexicon
