import GoLexicon.Proofs.Scan.Account
/-!
# The course of a scan

Every scan takes one of two courses. Either it visits all packages that are not internal, in the
order of the list, and everything that it asks for is given (`Survey`); or it breaks off at the
first step that fails (`BreaksOff`): the list is not given, or a package is not, or the names of a
file are not. `run_course` says this of each scan, with the account of the course, from which its
dialogue, the events for the display and its words can be read.

A package whose name is no text, or that has a file whose name is none, may break the scan off as
well.
-/

namespace GoLexicon

/-- The import paths of a list that are no internal ones. -/
def publicPaths (importPaths : List Text) : List Text := importPaths.filter (!isInternal ·)

/-- A file of a package, with the names that it declares. -/
structure FileVisit where
  path : Path
  names : List Text

/-- The account of a file whose names are given. -/
def FileVisit.account (v : FileVisit) : Account := ⟨[.extracting v.path (.ok v.names)], [], v.names⟩

/-- A package that an import path is resolved to, with its files as they are visited. -/
structure Visit where
  importPath : Text
  package : Package
  files : List FileVisit

namespace Visit

/-- All files of the package are visited, in order. -/
def IsComplete (v : Visit) : Prop := v.package.filePaths = .ok (v.files.map (·.path))

/-- The account of a package, up to the end of its files. -/
def account (v : Visit) : Account :=
  ⟨[.resolving v.importPath (.ok v.package)], [.packageStarted v.package.importPath],
      v.package.nameTokens⟩
    ++ .all FileVisit.account v.files ++ ⟨[], [.packageFinished v.package.importPath], []⟩

end Visit

/-- A library as a scan that succeeds finds it. -/
structure Survey where
  importPaths : List Text
  visits : List Visit

namespace Survey

/-- All packages that are not internal are visited, in order, and each with all of its files. -/
def IsComplete (s : Survey) : Prop :=
  s.visits.map (·.importPath) = publicPaths s.importPaths ∧ ∀ v ∈ s.visits, v.IsComplete

/-- The account of a library. -/
def account (s : Survey) : Account :=
  ⟨[.listing (.ok s.importPaths)], [], []⟩ ++ .all Visit.account s.visits

end Survey

/-- How a scan breaks off with a failure while it is at an import path, with the account from
there. -/
inductive StopsAt (f : Failure) (importPath : Text) : Account → Prop where
  /-- The package is not given. -/
  | unresolved : StopsAt f importPath ⟨[.resolving importPath (.error f)], [], []⟩
  /-- The names of a file are not given, those of the files before it are. -/
  | unextracted (p : Package) (files : List FileVisit) (path : Path) (later : List Path)
      (h : p.filePaths = .ok (files.map (·.path) ++ path :: later)) :
      StopsAt f importPath
        (⟨[.resolving importPath (.ok p)], [.packageStarted p.importPath], p.nameTokens⟩
          ++ .all FileVisit.account files ++ ⟨[.extracting path (.error f)], [], []⟩)
  /-- The package is given, and its name has no words. -/
  | unnamed (p : Package) (fault : Fault) (hf : f = .fault fault) (h : ¬ p.IsNamed) :
      StopsAt f importPath ⟨[.resolving importPath (.ok p)], [.packageStarted p.importPath], []⟩
  /-- The package is given, and one of its files has no path. -/
  | unplaced (p : Package) (fault : Fault) (hf : f = .fault fault)
      (h : p.filePaths = .error fault) :
      StopsAt f importPath
        ⟨[.resolving importPath (.ok p)], [.packageStarted p.importPath], p.nameTokens⟩

/-- How a scan breaks off with a failure. -/
inductive BreaksOff (f : Failure) : Account → Prop where
  /-- The list is not given. -/
  | unlisted : BreaksOff f ⟨[.listing (.error f)], [], []⟩
  /-- It stops at an import path, and has visited the packages before it. -/
  | within (s : Survey) (importPath : Text) (later : List Text) (a : Account)
      (paths : publicPaths s.importPaths = s.visits.map (·.importPath) ++ importPath :: later)
      (complete : ∀ v ∈ s.visits, v.IsComplete) (stops : StopsAt f importPath a) :
      BreaksOff f (s.account ++ a)

namespace Scan

variable {guide : Guide} {mode : Mode}

/-! ## The words of a package -/

theorem perform_addWord (w : Text) (r : Record) :
    (addWord w).perform r = (.ok (), { r with
      words := r.words.add w
      events := (if w ∈ r.words then [] else [.adding w]) ++ r.events }) := by
  have unfolded : (addWord w).perform r = (if w ∉ r.words then
      (happens (.adding w) >>= fun _ => modify fun r => { r with words := r.words.add w })
      else modify fun r => { r with words := r.words.add w } : Scan Unit).perform r := rfl
  rw [unfolded]
  by_cases h : w ∈ r.words
  · rw [if_neg (not_not_intro h), if_pos h]
    rfl
  · rw [if_pos h, if_neg h]
    rfl

/-- Adding words asks nothing and tells the display nothing. -/
theorem perform_forM_addWord (guide : Guide) (ws : List Text) (r : Record) :
    ∃ r', (ws.forM addWord).perform r = (.ok (), r') ∧ r'.words = r.words.addAll ws ∧
      r'.finished = r.finished ∧ r'.told = r.told ∧
      guide.dialogue r'.events = guide.dialogue r.events := by
  induction ws generalizing r with
  | nil => exact ⟨r, rfl, rfl, rfl, rfl, rfl⟩
  | cons w ws ih =>
    obtain ⟨r', hp, hw, hf, ht, hd⟩ := ih _
    refine ⟨r', (perform_bind_ok (perform_addWord w r)).trans hp, hw, hf, ht.trans ?_,
      hd.trans ?_⟩
    · by_cases h : w ∈ r.words <;> simp [h, Record.told, Event.isTold]
    · by_cases h : w ∈ r.words <;> simp [h, Guide.dialogue, Guide.exchange?]

theorem ends_addIdentifier (name : Text) :
    Ends guide mode (addIdentifier mode name) fun _ a => a = ⟨[], [], [name]⟩ := by
  intro r
  obtain ⟨r', hp, hw, hf, ht, hd⟩ := perform_forM_addWord guide (mode.words name) r
  refine ⟨r', _, ⟨?_, ?_, ?_, fun _ => ?_⟩, .inl ⟨(), hp, rfl⟩⟩
  · simpa using hd
  · simpa using ht
  · simpa [Record.finishedIn] using hf
  · simpa using hw

theorem ends_addIdentifiers (names : List Text) :
    Ends guide mode (names.forM (addIdentifier mode)) fun _ a => a = ⟨[], [], names⟩ := by
  refine (Ends.forM ends_addIdentifier names).mono ?_
  rintro - a rfl
  simp [Account.all]

/-- A record that differs in its words only is led to by nothing, if no words are promised. -/
theorem leads_of_unnamed (unnamed : ¬ guide.IsNamed) (r : Record) (words : WordSet) :
    r.Leads guide mode { r with words := words } .none :=
  ⟨by simp [Account.none], by simp [Record.told, Account.none],
    by simp [Record.finishedIn, Account.none], fun named => absurd named unnamed⟩

theorem runs_addName_unnamed (name : Json) (unnamed : ¬ guide.IsNamed)
    (h : ∀ t : Text, name ≠ .text t) :
    Runs guide mode (addName mode name) (fun _ a => a = .none)
      fun f a => (∃ fault, f = .fault fault) ∧ a = .none := by
  intro r
  unfold addName
  split
  · next t => exact absurd rfl (h t)
  · -- the value is a member of its own, or cannot be one
    cases hv : r.words.addValue name with
    | ok words =>
      refine ⟨_, _, leads_of_unnamed unnamed r words, .inl ⟨(), ?_, rfl⟩⟩
      rw [perform_get_bind, hv]
      rfl
    | error fault =>
      refine ⟨_, _, .refl r, .inr ⟨.fault fault, ?_, ⟨fault, rfl⟩, rfl⟩⟩
      rw [perform_get_bind, hv]
      rfl
  · split
    · exact ⟨_, _, .refl r, .inr ⟨_, rfl, ⟨_, rfl⟩, rfl⟩⟩
    · exact ⟨_, _, .refl r, .inl ⟨_, rfl, rfl⟩⟩

theorem runs_addName (p : Package) (unnamed : ¬ p.IsNamed → ¬ guide.IsNamed) :
    Runs guide mode (addName mode p.name) (fun _ a => a = ⟨[], [], p.nameTokens⟩)
      fun f a => (¬ p.IsNamed ∧ ∃ fault, f = .fault fault) ∧ a = .none := by
  by_cases h : ∃ t : Text, p.name = .text t
  · obtain ⟨t, ht⟩ := h
    intro r
    refine ⟨{ r with words := r.words.addAll (mode.words t) }, _, ⟨?_, ?_, ?_, fun _ => ?_⟩,
      .inl ⟨(), by rw [ht]; rfl, rfl⟩⟩
    · simp
    · simp [Record.told]
    · simp [Record.finishedIn]
    · simp [Package.nameTokens, ht]
  · have hn : p.nameTokens = [] := by
      unfold Package.nameTokens
      split
      · next t ht => exact absurd ⟨t, ht⟩ h
      · rfl
    rw [hn]
    refine (runs_addName_unnamed p.name (unnamed h) fun t ht => h ⟨t, ht⟩).mono (fun _ _ => id) ?_
    rintro f a ⟨hf, ha⟩
    exact ⟨⟨h, hf⟩, ha⟩

/-! ## Files and packages -/

theorem runs_file (path : Path) :
    Runs guide mode (file guide mode path)
      (fun _ a => ∃ v : FileVisit, v.path = path ∧ a = v.account)
      fun f a => a = ⟨[.extracting path (.error f)], [], []⟩ := by
  refine Runs.bind (Runs.ask (.extracting path) rfl fun _ => rfl) ?_ fun _ _ => id
  rintro names a ⟨-, rfl⟩
  refine (ends_addIdentifiers names).mono ?_
  rintro - b rfl
  exact ⟨⟨path, names⟩, rfl, by simp [FileVisit.account]⟩

theorem runs_files (paths : List Path) :
    Runs guide mode (paths.forM (file guide mode))
      (fun _ a => ∃ files : List FileVisit, paths = files.map (·.path) ∧
        a = .all FileVisit.account files)
      fun f a => ∃ (files : List FileVisit) (path : Path) (later : List Path),
        paths = files.map (·.path) ++ path :: later ∧
          a = .all FileVisit.account files ++ ⟨[.extracting path (.error f)], [], []⟩ := by
  have visited : ∀ {paths : List Path} {files : List FileVisit},
      List.Forall₂ (fun path v => v.path = path) paths files → paths = files.map (·.path) := by
    intro paths files h
    induction h with
    | nil => rfl
    | cons h _ ih => rw [List.map_cons, ← ih, h]
  refine (Runs.forM runs_file paths).mono ?_ ?_
  · rintro - a ⟨files, hfiles, rfl⟩
    exact ⟨files, visited hfiles, rfl⟩
  · rintro f a ⟨before, path, later, files, b, rfl, hfiles, rfl, rfl⟩
    exact ⟨files, path, later, by rw [visited hfiles], rfl⟩

theorem runs_package (p : Package) (unnamed : ¬ p.IsNamed → ¬ guide.IsNamed) :
    Runs guide mode (package guide mode p)
      (fun _ a => ∃ files : List FileVisit, p.filePaths = .ok (files.map (·.path)) ∧
        a = ⟨[], [], p.nameTokens⟩ ++ .all FileVisit.account files)
      fun f a => (∃ fault, f = .fault fault ∧ (¬ p.IsNamed ∧ a = .none ∨
          p.filePaths = .error fault ∧ a = ⟨[], [], p.nameTokens⟩)) ∨
        ∃ (files : List FileVisit) (path : Path) (later : List Path),
          p.filePaths = .ok (files.map (·.path) ++ path :: later) ∧
            a = ⟨[], [], p.nameTokens⟩ ++ .all FileVisit.account files
              ++ ⟨[.extracting path (.error f)], [], []⟩ := by
  refine Ends.bind (Ends.noted rfl fun _ => rfl) ?_
  rintro - a rfl
  refine Runs.bind (runs_addName p unnamed) ?_ ?_
  · rintro - b rfl
    cases hpaths : p.filePaths with
    | error fault =>
      refine fun r => ⟨r, .none, .refl r, .inr ⟨.fault fault, rfl, .inl ⟨fault, rfl, .inr ?_⟩⟩⟩
      exact ⟨rfl, by simp⟩
    | ok paths =>
      refine Ends.bind (Ends.pure paths) ?_
      rintro ys c ⟨hys, rfl⟩
      rw [hys]
      refine (runs_files paths).mono ?_ ?_
      · rintro - d ⟨files, rfl, rfl⟩
        exact ⟨files, rfl, by simp⟩
      · rintro f d ⟨files, path, later, rfl, rfl⟩
        exact .inr ⟨files, path, later, rfl, by simp [Account.append_assoc]⟩
  · rintro f b ⟨⟨hp, fault, rfl⟩, rfl⟩
    exact .inl ⟨fault, rfl, .inl ⟨hp, by simp⟩⟩

theorem ends_skip (importPaths : List Text) :
    Ends guide mode (skip importPaths) fun _ a => a = .none := by
  refine (Ends.forM (fun _ => Ends.noted rfl fun _ => rfl) importPaths).mono ?_
  rintro - a rfl
  simp [Account.all, Account.none]

theorem runs_visit (s : Stop) :
    Runs guide mode (visit guide s)
      (fun p a => (¬ p.IsNamed → ¬ guide.IsNamed) ∧ a = ⟨[.resolving s.importPath (.ok p)], [], []⟩)
      fun f a => a = ⟨[.resolving s.importPath (.error f)], [], []⟩ := by
  refine Ends.bind (ends_skip s.skipped) ?_
  rintro - a rfl
  refine (Runs.ask (.resolving s.importPath) rfl fun _ => rfl).mono ?_ ?_
  · rintro p b ⟨⟨before, hp⟩, rfl⟩
    exact ⟨fun hn named => hn (named before s.importPath p hp), rfl⟩
  · rintro f b rfl
    rfl

theorem runs_stop (s : Stop) :
    Runs guide mode (stop guide mode s)
      (fun _ a => ∃ v : Visit, (v.importPath = s.importPath ∧ v.IsComplete) ∧ a = v.account)
      fun f a => StopsAt f s.importPath a := by
  refine Runs.bind (runs_visit s) ?_ ?_
  · rintro p a ⟨unnamed, rfl⟩
    refine Ends.bind (Ends.packageStarted p.importPath) ?_
    rintro - b rfl
    refine Runs.bind (runs_package p unnamed) ?_ ?_
    · rintro - c ⟨files, hfiles, rfl⟩
      refine (Ends.packageFinished p.importPath).mono ?_
      rintro - d rfl
      exact ⟨⟨s.importPath, p, files⟩, ⟨rfl, hfiles⟩, by
        simp [Visit.account, ← Account.append_assoc]⟩
    · rintro f c (⟨fault, rfl, ⟨hp, rfl⟩ | ⟨hpaths, rfl⟩⟩ | ⟨files, path, later, hfiles, rfl⟩)
      · exact .unnamed p fault rfl hp
      · exact .unplaced p fault rfl hpaths
      · have stops : StopsAt f s.importPath _ := .unextracted p files path later hfiles
        simpa [← Account.append_assoc] using stops
  · rintro f a rfl
    exact .unresolved

/-! ## The whole scan -/

theorem importPath_stops_ofList (importPaths : List Text) :
    (Itinerary.ofList importPaths).stops.map (·.importPath) = publicPaths importPaths := by
  induction importPaths with
  | nil => rfl
  | cons p ps ih =>
    have added : Itinerary.ofList (p :: ps) = (Itinerary.ofList ps).add p := rfl
    unfold publicPaths at ih ⊢
    rw [added, Itinerary.add, List.filter_cons]
    by_cases h : isInternal p = true
    · rw [if_pos h, h, ← ih]
      cases hs : (Itinerary.ofList ps).stops with
      | nil => simp
      | cons s ss => simp
    · simp [h, ih]

theorem runs_list :
    Runs guide mode (list guide)
      (fun way a => ∃ importPaths, way.stops.map (·.importPath) = publicPaths importPaths ∧
        a = ⟨[.listing (.ok importPaths)], [], []⟩)
      fun f a => a = ⟨[.listing (.error f)], [], []⟩ := by
  refine Runs.bind (Runs.ask .listing rfl fun _ => rfl) ?_ fun _ _ => id
  rintro importPaths a ⟨-, rfl⟩
  refine (Ends.pure _).mono ?_
  rintro way b ⟨rfl, rfl⟩
  exact ⟨importPaths, importPath_stops_ofList importPaths, rfl⟩

theorem importPath_visits {stops : List Stop} {visits : List Visit}
    (h : List.Forall₂ (fun s v => v.importPath = s.importPath ∧ v.IsComplete) stops visits) :
    visits.map (·.importPath) = stops.map (·.importPath) ∧ ∀ v ∈ visits, v.IsComplete := by
  induction h with
  | nil => exact ⟨rfl, by simp⟩
  | cons hv _ ih => exact ⟨by simp [hv.1, ih.1], by simpa using ⟨hv.2, ih.2⟩⟩

theorem runs_packages :
    Runs guide mode (packages guide mode)
      (fun _ a => ∃ s : Survey, s.IsComplete ∧ a = s.account) BreaksOff := by
  refine Runs.bind runs_list ?_ ?_
  · rintro way a ⟨importPaths, hway, rfl⟩
    refine Runs.bind (Runs.forM runs_stop way.stops) ?_ ?_
    · rintro - b ⟨visits, hvisits, rfl⟩
      obtain ⟨hpaths, hcomplete⟩ := importPath_visits hvisits
      refine (ends_skip way.rest).mono ?_
      rintro - c rfl
      exact ⟨⟨importPaths, visits⟩, ⟨hpaths.trans hway, hcomplete⟩, by simp [Survey.account]⟩
    · rintro f b ⟨before, s, after, visits, c, hstops, hvisits, hs, rfl⟩
      obtain ⟨hpaths, hcomplete⟩ := importPath_visits hvisits
      rw [← Account.append_assoc]
      refine .within ⟨importPaths, visits⟩ s.importPath (after.map (·.importPath)) c ?_ hcomplete hs
      rw [← hway, hstops, hpaths, List.map_append, List.map_cons]
  · rintro f a rfl
    exact .unlisted

/-- Each package that is visited is told once to be finished. -/
theorem finishedIn_account (s : Survey) : Record.finishedIn s.account.told = s.visits.length := by
  have files : ∀ fs : List FileVisit, (Account.all FileVisit.account fs).told = [] := fun fs => by
    simp [Account.all, FileVisit.account]
  change Record.finishedIn (Account.all Visit.account s.visits).told = _
  induction s.visits with
  | nil => rfl
  | cons v vs ih =>
    rw [Account.all_cons, Account.told_append, Record.finishedIn, List.countP_append,
      ← Record.finishedIn, ← Record.finishedIn, ih]
    simp [Visit.account, files, Record.finishedIn, Nat.add_comm]

/-- The record when the display has been told that the scan starts. -/
def started (mode : Mode) (further : List Text) : Record :=
  ⟨seed mode further ∅, 0, [.scanStarted, .entered]⟩

@[simp] theorem words_started (mode : Mode) (further : List Text) :
    (started mode further).words = seed mode further ∅ := by
  rw [started]

@[simp] theorem events_started (mode : Mode) (further : List Text) :
    (started mode further).events = [.scanStarted, .entered] := by
  rw [started]

@[simp] theorem finished_started (mode : Mode) (further : List Text) :
    (started mode further).finished = 0 := by
  rw [started]

theorem run_of_ok {further : List Text} {r : Record}
    (h : (packages guide mode).perform (started mode further) = (.ok (), r)) :
    run guide mode further =
      ⟨.ok r.words, (.left none :: .scanFinished r.finished r.words.size :: r.events).reverse⟩ := by
  have performed : (inside guide mode).perform ⟨seed mode further ∅, 0, [.entered]⟩ =
      (.ok (), { r with events := .scanFinished r.finished r.words.size :: r.events }) :=
    (perform_bind_ok (perform_happens _ _)).trans (perform_bind_ok h)
  rw [run, performed]
  rfl

theorem run_of_error {further : List Text} {f : Failure} {r : Record}
    (h : (packages guide mode).perform (started mode further) = (.error f, r)) :
    run guide mode further = ⟨.error f, (.left (some f) :: r.events).reverse⟩ := by
  have performed :
      (inside guide mode).perform ⟨seed mode further ∅, 0, [.entered]⟩ = (.error f, r) :=
    (perform_bind_ok (perform_happens _ _)).trans (perform_bind_error h)
  rw [run, performed]
  rfl

/-- **The course of a scan**: it visits the whole library, or breaks off. The trace holds the
dialogue and the events for the display that the account of the course says, and if the names of all
packages are texts, the words are those of its tokens, added to the words of the vocabulary. -/
theorem run_course (guide : Guide) (mode : Mode) (further : List Text) :
    (∃ (s : WordSet) (survey : Survey), (run guide mode further).result = .ok s ∧
      survey.IsComplete ∧ (run guide mode further).dialogue guide = survey.account.said ∧
      (run guide mode further).trace.filter (·.isTold) =
        .entered :: .scanStarted :: survey.account.told
          ++ [.scanFinished survey.visits.length s.size, .left none] ∧
      (guide.IsNamed → s = (seed mode further ∅).addAll (mode.wordsOfAll survey.account.tokens))) ∨
    ∃ (f : Failure) (a : Account), (run guide mode further).result = .error f ∧
      BreaksOff f a ∧ (run guide mode further).dialogue guide = a.said ∧
      (run guide mode further).trace.filter (·.isTold) =
        .entered :: .scanStarted :: a.told ++ [.left (some f)] := by
  have runs : Runs guide mode (packages guide mode) _ _ := runs_packages
  obtain ⟨r, a, hl, ⟨_, hp, survey, hs, rfl⟩ | ⟨f, hp, hf⟩⟩ := runs (started mode further)
  · have hfinished : r.finished = survey.visits.length := by
      rw [hl.finished, finishedIn_account]
      exact Nat.zero_add _
    rw [run_of_ok hp]
    refine .inl ⟨r.words, survey, rfl, hs, ?_, ?_, hl.words⟩
    · rw [Outcome.dialogue_left, Guide.dialogue_cons_of_none rfl, hl.dialogue]
      rfl
    · rw [List.filter_reverse, List.filter_cons_of_pos rfl, List.filter_cons_of_pos rfl,
        List.reverse_cons, List.reverse_cons, ← Record.told, hl.told, hfinished]
      simp [started, Record.told, Event.isTold]
  · rw [run_of_error hp]
    refine .inr ⟨f, a, rfl, hf, ?_, ?_⟩
    · rw [Outcome.dialogue_left, hl.dialogue]
      rfl
    · rw [List.filter_reverse, List.filter_cons_of_pos rfl, List.reverse_cons, ← Record.told,
        hl.told]
      simp [started, Record.told, Event.isTold]

end Scan

end GoLexicon
