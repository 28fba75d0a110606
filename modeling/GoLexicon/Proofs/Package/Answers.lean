import GoLexicon.Proofs.Json.Limits
import GoLexicon.Proofs.Package.Descriptions
import GoLexicon.Proofs.Scan.Blame
/-!
# What a toolchain answers

A question to a toolchain is meant to be answered: with what was asked for, or with a diagnostic
about it. It is, whether the program can be run or not and however it ends, if the toolchain is
heard (`Toolchain.IsHeard`): the words can be handed to a program, and what the program prints is
text. If it is not heard, the failure is a fault, also where the program ended without success
(`Toolchain.isAnswered_run_iff`).

What is known of a package is printed as a document, and a document that is beyond the limits of the
reader is no answer, either. These are the only exceptions (`Toolchain.isAnswered_iff_isHeard`).
-/

namespace GoLexicon

/-- Octets that write a text. -/
def Utf8.IsText (bytes : Bytes) : Prop := ∃ t : Text, t.IsScalar ∧ t.octets = bytes

theorem Json.unifyNewlines_brackets (n : Nat) : (brackets n).unifyNewlines = brackets n := by
  have plain : CodePoint.ofChar '\r' ∉ brackets n :=
    fun hc => absurd (List.eq_of_mem_replicate hc) (by decide)
  have same := Text.unifyNewlines_append (t := []) plain
  rwa [List.append_nil, Text.unifyNewlines, List.append_nil] at same

namespace Toolchain

variable {t : Toolchain} {words : List Text} {output errors : Bytes}

/-- A toolchain is heard when its program is run with some words: they can be handed to a program,
and what it leaves when it ends, with or without success, is text. -/
structure IsHeard (t : Toolchain) (words : List Text) : Prop where
  passable : ∀ word ∈ t.binary :: words, ∀ c ∈ word, c.IsPassable
  text : ∀ output errors failure, t.program t.binary words = .ended output errors failure →
    Utf8.IsText output ∧ Utf8.IsText errors

theorem IsHeard.textFault?_eq_none (h : t.IsHeard words) :
    ∀ word ∈ t.binary :: words, FileSystem.textFault? word = none :=
  fun word hword => FileSystem.textFault?_eq_none_iff.2 (h.passable word hword)

theorem printed_eq_ok_iff {u : Text} :
    printed output = .ok u ↔ ∃ text, Text.decode output = .ok text ∧ text.unifyNewlines = u := by
  unfold printed
  cases Text.decode output with
  | ok text =>
    constructor
    · rintro ⟨⟩
      exact ⟨text, rfl, rfl⟩
    · rintro ⟨_, ⟨⟩, rfl⟩
      rfl
  | error m => exact ⟨nofun, nofun⟩

theorem exists_printed_iff : (∃ u, printed output = .ok u) ↔ Utf8.IsText output := by
  simp only [printed_eq_ok_iff, Text.decode_eq_ok_iff, Utf8.IsText]
  exact ⟨fun ⟨_, text, h, _⟩ => ⟨text, h⟩, fun ⟨text, h⟩ => ⟨_, text, h, rfl⟩⟩

theorem isAnswered_printed_iff {subject : Subject} :
    IsAnswered subject (printed output) ↔ Utf8.IsText output := by
  rw [← exists_printed_iff, printed]
  cases Text.decode output with
  | ok u => exact ⟨fun _ => ⟨_, rfl⟩, fun _ => .ok _⟩
  | error m =>
    refine ⟨fun h => absurd h (IsAnswered.not_fault _), ?_⟩
    rintro ⟨_, ⟨⟩⟩

theorem isAnswered_cannotRun {α : Type} (binary : Text) (importPath : Option Text)
    (reason : SystemError.Reason) : IsAnswered (.resolution importPath)
      (.error (cannotRun binary importPath reason) : Except Failure α) := by
  cases reason <;> exact .diagnostic _ _

/-- Output and errors are both read, whichever of them is made use of then. -/
theorem isAnswered_both_iff {α : Type} {subject : Subject} {g : Text → Text → Except Failure α}
    (h : ∀ u v, IsAnswered subject (g u v)) :
    IsAnswered subject (do g (← printed output) (← printed errors)) ↔
      Utf8.IsText output ∧ Utf8.IsText errors := by
  rw [IsAnswered.bind_iff, isAnswered_printed_iff]
  refine and_congr_right fun houtput => ⟨fun hrest => ?_, fun herrors u _ => ?_⟩
  · obtain ⟨u, hu⟩ := exists_printed_iff.2 houtput
    exact isAnswered_printed_iff.1 (IsAnswered.bind_iff.1 (hrest u hu)).1
  · exact IsAnswered.bind_iff.2 ⟨isAnswered_printed_iff.2 herrors, fun v _ => h u v⟩

/-- A run of the program is answered exactly if the toolchain is heard. -/
theorem isAnswered_run_iff (importPath : Option Text) :
    IsAnswered (.resolution importPath) (t.run words importPath) ↔ t.IsHeard words := by
  unfold run
  split
  · next hfault =>
    refine ⟨fun h => absurd h (IsAnswered.not_fault _), fun h => ?_⟩
    rw [List.findSome?_eq_none_iff.2 h.textFault?_eq_none] at hfault
    cases hfault
  · next hfault =>
    have passable : ∀ word ∈ t.binary :: words, ∀ c ∈ word, c.IsPassable :=
      fun word hword => FileSystem.textFault?_eq_none_iff.1
        (List.findSome?_eq_none_iff.1 hfault word hword)
    split
    · next hrun =>
      refine ⟨fun _ => ⟨passable, fun _ _ _ h => ?_⟩, fun _ => isAnswered_cannotRun _ _ _⟩
      exact nomatch hrun.symm.trans h
    · next output errors failure hrun =>
      refine (isAnswered_both_iff fun _ _ => ?_).trans
        ⟨fun h => ⟨passable, fun _ _ _ h' => ?_⟩, fun h => h.text _ _ _ hrun⟩
      · cases failure with
        | none => exact .ok _
        | some ending => exact .diagnostic _ _
      · obtain ⟨rfl, rfl, rfl⟩ := ProgramRun.ended.inj (hrun.symm.trans h')
        exact h

/-- The output of a run is the text that the program prints when it ends with success. -/
theorem run_eq_ok_iff {importPath : Option Text} {u : Text} : t.run words importPath = .ok u ↔
    t.IsHeard words ∧ ∃ text, (t.program t.binary words).Prints text ∧ text.unifyNewlines = u := by
  constructor
  · intro h
    refine ⟨(isAnswered_run_iff importPath).1 (.inl ⟨u, h⟩), ?_⟩
    unfold run at h
    split at h
    · cases h
    · split at h
      · cases h
      · next output errors failure hrun =>
        obtain ⟨v, houtput, h⟩ := Except.bind_eq_ok_iff.1 h
        obtain ⟨w, herrors, h⟩ := Except.bind_eq_ok_iff.1 h
        cases failure with
        | some ending => cases h
        | none =>
          obtain ⟨text, htext, rfl⟩ := printed_eq_ok_iff.1 houtput
          obtain ⟨said, hsaid, -⟩ := printed_eq_ok_iff.1 herrors
          exact ⟨text, ⟨output, errors, said, hrun, htext, hsaid⟩, Except.ok.inj h⟩
  · rintro ⟨heard, text, hprints, rfl⟩
    exact run_of_prints heard.textFault?_eq_none hprints importPath

theorem isAnswered_listStandard_iff :
    IsAnswered (.resolution none) t.listStandard ↔ t.IsHeard ["list", "std"] := by
  rw [listStandard, IsAnswered.bind_iff, isAnswered_run_iff]
  exact and_iff_left fun output _ => .ok (listed output)

theorem isAnswered_packageInfo_iff {importPath : Text} :
    IsAnswered (.resolution (some importPath)) (t.packageInfo importPath) ↔
      t.IsHeard ["list", "-json", importPath] ∧
        ∀ document, (t.program t.binary ["list", "-json", importPath]).Prints document →
          ¬ Json.Overstrains document.unifyNewlines := by
  rw [packageInfo, IsAnswered.bind_iff, isAnswered_run_iff]
  refine and_congr_right fun heard =>
    ⟨fun h document hprints overstrains => ?_, fun h output hrun => ?_⟩
  · have answered := h _ (run_eq_ok_iff.2 ⟨heard, document, hprints, rfl⟩)
    -- only a refusal for the grammar is handled, and this is none
    obtain ⟨failure, hread, hfailure⟩ := overstrains
    cases failure with
    | refused r => exact hfailure r rfl
    | tooDeep inList =>
      simp only [hread] at answered
      exact IsAnswered.not_fault _ answered
    | tooManyDigits count =>
      simp only [hread] at answered
      exact IsAnswered.not_fault _ answered
  · obtain ⟨-, document, hprints, rfl⟩ := run_eq_ok_iff.1 hrun
    split
    · exact .ok _
    · exact .diagnostic _ _
    · exact .diagnostic _ _
    · next failure hfailure hread =>
      exact absurd ⟨failure, hread, hfailure⟩ (h document hprints)

theorem exists_listStandard_iff : (∃ importPaths, t.listStandard = .ok importPaths) ↔
    t.IsHeard ["list", "std"] ∧
      ∃ listing, (t.program t.binary ["list", "std"]).Prints listing := by
  constructor
  · rintro ⟨importPaths, h⟩
    obtain ⟨output, hrun, -⟩ := Except.bind_eq_ok_iff.1 h
    obtain ⟨heard, listing, hprints, -⟩ := run_eq_ok_iff.1 hrun
    exact ⟨heard, listing, hprints⟩
  · rintro ⟨heard, listing, hprints⟩
    exact ⟨_, Except.bind_eq_ok_iff.2 ⟨_, run_eq_ok_iff.2 ⟨heard, listing, hprints, rfl⟩, rfl⟩⟩

theorem packageInfo_eq_ok_iff {importPath : Text} {info : List (Text × Json)} :
    t.packageInfo importPath = .ok info ↔ t.IsHeard ["list", "-json", importPath] ∧
      ∃ document, (t.program t.binary ["list", "-json", importPath]).Prints document ∧
        Json.read Json.nestingLimit document.unifyNewlines = .ok (.object info) := by
  constructor
  · intro h
    obtain ⟨output, hrun, h⟩ := Except.bind_eq_ok_iff.1 h
    obtain ⟨heard, document, hprints, rfl⟩ := run_eq_ok_iff.1 hrun
    refine ⟨heard, document, hprints, ?_⟩
    split at h
    · next members hread =>
      rw [hread, ← Except.ok.inj h]
    all_goals cases h
  · rintro ⟨heard, document, hprints, hread⟩
    refine Except.bind_eq_ok_iff.2 ⟨_, run_eq_ok_iff.2 ⟨heard, document, hprints, rfl⟩, ?_⟩
    simp only [hread]
    rfl

/-- **A toolchain answers exactly if it is heard**, and its documents are not beyond the reader. It
gives what was asked for exactly if its program ends with success, and prints a text; for a package
the text must be a document of an object. In all other cases the answer is a diagnostic on the
question. -/
theorem isAnswered_iff_isHeard (t : Toolchain) :
    (IsAnswered (.resolution none) t.listStandard ↔ t.IsHeard ["list", "std"]) ∧
    ((∃ importPaths, t.listStandard = .ok importPaths) ↔ t.IsHeard ["list", "std"] ∧
      ∃ listing, (t.program t.binary ["list", "std"]).Prints listing) ∧
    ∀ importPath : Text,
      (IsAnswered (.resolution (some importPath)) (t.packageInfo importPath) ↔
        t.IsHeard ["list", "-json", importPath] ∧
          ∀ document, (t.program t.binary ["list", "-json", importPath]).Prints document →
            ¬ Json.Overstrains document.unifyNewlines) ∧
      (∀ info, t.packageInfo importPath = .ok info ↔ t.IsHeard ["list", "-json", importPath] ∧
        ∃ document, (t.program t.binary ["list", "-json", importPath]).Prints document ∧
          Json.read Json.nestingLimit document.unifyNewlines = .ok (.object info)) ∧
      (t.IsHeard ["list", "-json", importPath] →
        (∀ document, (t.program t.binary ["list", "-json", importPath]).Prints document →
          Json.IsWithinLimits document.unifyNewlines) →
        IsAnswered (.resolution (some importPath)) (t.packageInfo importPath)) := by
  refine ⟨isAnswered_listStandard_iff, exists_listStandard_iff, fun importPath =>
    ⟨isAnswered_packageInfo_iff, fun info => packageInfo_eq_ok_iff, fun heard within => ?_⟩⟩
  exact isAnswered_packageInfo_iff.2
    ⟨heard, fun document hprints => (within document hprints).not_overstrains⟩

/-- A toolchain whose program says that it failed, in words. -/
def failingToolchain : Toolchain :=
  ⟨"go", fun _ _ => .ended [] (Text.octets "no such package") (some (.status 1))⟩

theorem isHeard_failingToolchain {words : List Text}
    (h : ∀ word ∈ words, FileSystem.textFault? word = none) : failingToolchain.IsHeard words where
  passable word hword := by
    rcases List.mem_cons.1 hword with rfl | hword
    · exact FileSystem.textFault?_eq_none_iff.1 (by decide)
    · exact FileSystem.textFault?_eq_none_iff.1 (h word hword)
  text output errors failure hrun := by
    obtain ⟨rfl, rfl, -⟩ := ProgramRun.ended.inj hrun
    exact ⟨⟨[], nofun, rfl⟩, ⟨_, Text.isScalar_ofString _, rfl⟩⟩

theorem isAnswered_failingToolchain :
    failingToolchain.IsHeard ["list", "-json", "fmt"] ∧
    (∀ document, ¬ (failingToolchain.program "go" ["list", "-json", "fmt"]).Prints document) ∧
    IsAnswered (.resolution (some "fmt")) (failingToolchain.packageInfo "fmt") ∧
    ¬ ∃ info, failingToolchain.packageInfo "fmt" = .ok info := by
  have heard : failingToolchain.IsHeard ["list", "-json", "fmt"] :=
    isHeard_failingToolchain (by decide)
  have silent : ∀ document,
      ¬ (failingToolchain.program "go" ["list", "-json", "fmt"]).Prints document := by
    rintro document ⟨output, errors, said, ⟨⟩, -⟩
  obtain ⟨-, -, questions⟩ := isAnswered_iff_isHeard failingToolchain
  obtain ⟨-, known, answered⟩ := questions "fmt"
  refine ⟨heard, silent, answered heard fun document h => absurd h (silent document), ?_⟩
  rintro ⟨info, h⟩
  obtain ⟨-, document, hprints, -⟩ := (known info).1 h
  exact silent document hprints

/-- Octets that are no text are no answer, also not from a program that failed, and neither is a
document of too many brackets. -/
theorem not_isAnswered_garbled :
    ¬ IsAnswered (.resolution none) (listStandard ⟨"go", fun _ _ => .ended [0xFF] [] none⟩) ∧
    ¬ IsAnswered (.resolution (some "fmt"))
      (packageInfo ⟨"go", fun _ _ => .ended [] [0xFF] (some (.status 1))⟩ "fmt") ∧
    ¬ IsAnswered (.resolution (some "fmt")) (packageInfo ⟨"go", fun _ _ =>
      .ended (Json.brackets (Json.nestingLimit + 1)).octets [] none⟩ "fmt") := by
  have garbled : ¬ Utf8.IsText [0xFF] := by
    intro h
    obtain ⟨u, hu⟩ := exists_printed_iff.2 h
    cases hu
  refine ⟨fun h => ?_, fun h => ?_, fun h => ?_⟩
  · exact garbled ((isAnswered_listStandard_iff.1 h).text _ _ _ rfl).1
  · exact garbled ((isAnswered_packageInfo_iff.1 h).1.text _ _ _ rfl).2
  · have readable := (isAnswered_packageInfo_iff.1 h).2 _
      ⟨_, _, [], rfl, Text.decode_eq_ok_iff.2 ⟨Json.isScalar_brackets _, rfl⟩, rfl⟩
    rw [Json.unifyNewlines_brackets] at readable
    exact readable Json.overstrains_brackets_succ

end Toolchain

end GoLexicon
