import GoLexicon.Proofs.Scan.Protocol
import GoLexicon.Proofs.Scan.Reordering
import GoLexicon.Scan.Trace
/-!
# The words that a scan notes

A scan inserts the words of one token after the other: first those of the vocabulary and the further
words, then, as the answers come in, those of the names of packages and of the names in files
(`Scan.history`). It notes a word that it inserts if this is new and comes from a name in a file.

So the notes depend on what was inserted before without a note. The invariant
(`Record.Reflects`) says of the insertions that have been made what the set and the notes are, and
each insertion keeps it (`Record.Reflects.concat`). Between an answer and the last of the insertions
that it leads to, a scan owes some insertions (`Scan.Owes`); each part of a scan pays what it owes
(`Scan.Pays`), so a scan that succeeds has made them all (`Scan.run_notes_first_insertions`).
-/

namespace GoLexicon

/-! ## Words of a token -/

namespace Mode

theorem words_eq_nil_or_singleton (mode : Mode) (token : Text) :
    mode.words token = [] ∨ ∃ w, mode.words token = [w] := by
  unfold words
  split
  · exact .inl rfl
  · exact .inr ⟨_, rfl⟩

theorem nodup_words (mode : Mode) (token : Text) : (mode.words token).Nodup := by
  rcases words_eq_nil_or_singleton mode token with h | ⟨w, h⟩ <;> simp [h]

end Mode

/-! ## Insertions -/

/-- Where a token comes from. -/
inductive Source where
  /-- It is a word of the vocabulary, or a further word. -/
  | vocabulary
  /-- It is the name of a package. -/
  | package
  /-- It is a name that a file declares. -/
  | identifier
  deriving DecidableEq

/-- The words of a token are inserted. The name of a package may be no text. -/
structure Insertion where
  source : Source
  token : Json

namespace Insertion

/-- The insertions for some tokens from one source. -/
def ofTokens (source : Source) (tokens : List Text) : List Insertion :=
  tokens.map fun token => ⟨source, .text token⟩

/-- The words that are inserted. -/
def words (mode : Mode) (i : Insertion) : List Text :=
  match i.token with
  | .text token => mode.words token
  | _ => []

/-- Where the first insertion of a word comes from. -/
def firstSource? (mode : Mode) (made : List Insertion) (w : Text) : Option Source :=
  (made.find? fun i => w ∈ i.words mode).map (·.source)

variable {mode : Mode} {made : List Insertion} {i : Insertion} {source : Source} {w : Text}

theorem source_of_mem_ofTokens {tokens : List Text} (h : i ∈ ofTokens source tokens) :
    i.source = source := by
  obtain ⟨token, -, rfl⟩ := List.mem_map.1 h
  rfl

theorem isOther_of_mem_ofTokens {tokens : List Text} (h : i ∈ ofTokens source tokens) :
    i.token.isOther = false := by
  obtain ⟨token, -, rfl⟩ := List.mem_map.1 h
  rfl

theorem exists_mem_ofTokens {tokens : List Text} :
    (∃ i ∈ ofTokens source tokens, w ∈ i.words mode) ↔ w ∈ mode.wordsOfAll tokens := by
  simp [ofTokens, words, Mode.wordsOfAll]

theorem mem_words :
    w ∈ i.words mode ↔ ∃ token : Text, i.token = .text token ∧ w ∈ mode.words token := by
  unfold words
  split
  · next token h => simp [h]
  · next h => simpa using fun token ht => absurd ht (h token)

theorem firstSource?_append (made later : List Insertion) (w : Text) :
    firstSource? mode (made ++ later) w =
      (firstSource? mode made w).or (firstSource? mode later w) := by
  rw [firstSource?, List.find?_append, Option.map_or]
  rfl

theorem firstSource?_singleton (i : Insertion) (w : Text) :
    firstSource? mode [i] w = if w ∈ i.words mode then some i.source else none := by
  by_cases h : w ∈ i.words mode <;> simp [firstSource?, h]

theorem firstSource?_ofTokens (source : Source) (tokens : List Text) (w : Text) :
    firstSource? mode (ofTokens source tokens) w =
      if w ∈ mode.wordsOfAll tokens then some source else none := by
  induction tokens with
  | nil => simp [ofTokens, firstSource?]
  | cons token tokens ih =>
    have cons : ofTokens source (token :: tokens) =
        [⟨source, .text token⟩] ++ ofTokens source tokens := rfl
    rw [cons, firstSource?_append, firstSource?_singleton, ih, Mode.wordsOfAll_cons]
    by_cases h : w ∈ mode.words token <;> simp [words, h]

theorem firstSource?_eq_none_iff :
    firstSource? mode made w = none ↔ ∀ i ∈ made, w ∉ i.words mode := by
  simp [firstSource?]

theorem exists_of_firstSource? (h : firstSource? mode made w = some source) :
    ∃ i ∈ made, i.source = source ∧ w ∈ i.words mode := by
  obtain ⟨i, hfind, rfl⟩ := Option.map_eq_some_iff.1 h
  have hw : decide (w ∈ i.words mode) = true := by simpa using List.find?_some hfind
  exact ⟨i, List.mem_of_find?_eq_some hfind, rfl, of_decide_eq_true hw⟩

end Insertion

/-- The insertions that an answer leads to. -/
def Exchange.insertions : Exchange → List Insertion
  | resolving _ (.ok p) => [⟨.package, p.name⟩]
  | extracting _ (.ok names) => Insertion.ofTokens .identifier names
  | _ => []

/-- The insertions of a scan, in order: those with which it begins, and those to which the answers
lead. -/
def Scan.history (further : List Text) (dialogue : List Exchange) : List Insertion :=
  Insertion.ofTokens .vocabulary (Vocabulary.tokens further) ++
    dialogue.flatMap Exchange.insertions

/-! ## Notes -/

/-- The word of a note on a word that is about to be added. -/
def Event.added? : Event → Option Text
  | adding w => some w
  | _ => none

/-- The words that are noted, in order. -/
def Record.additions (r : Record) : List Text := (r.events.filterMap Event.added?).reverse

/-- The words that are noted, in order. -/
def Scan.Outcome.additions (o : Outcome) : List Text := o.trace.filterMap Event.added?

theorem Scan.Outcome.additions_left (result : Except Failure WordSet) (failure : Option Failure)
    (events : List Event) : (⟨result, (.left failure :: events).reverse⟩ : Outcome).additions =
      (events.filterMap Event.added?).reverse := by
  rw [additions, List.filterMap_reverse, List.filterMap_cons_none rfl]

/-- The notes that begin with a certain word are those on words that are about to be added. -/
theorem Event.filter_notes (events : List Event) :
    (events.filterMap Event.note?).filter ((Text.ofString "adding ").isPrefixOf ·) =
      (events.filterMap Event.added?).map (Text.ofString "adding " ++ ·.quoted) := by
  have skipping : ∀ t : Text, (Text.ofString "adding ").isPrefixOf
      (Text.ofString "skipping internal package " ++ t) = false := fun _ => rfl
  have processing : ∀ t : Text, (Text.ofString "adding ").isPrefixOf
      (Text.ofString "processing package " ++ t) = false := fun _ => rfl
  induction events with
  | nil => rfl
  | cons e events ih =>
    cases e <;> simp [List.filterMap_cons, note?, added?, skipping, processing, ih]

/-! ## What has been inserted -/

/-- Some insertions have been made: the set has gained their tokens, and those words are noted, once
each, whose first insertion comes from a name in a file. -/
structure Record.Reflects (mode : Mode) (r : Record) (made : List Insertion) : Prop where
  gains : (∅ : WordSet).Gains mode (fun v => ∃ i ∈ made, i.token = v) r.words
  noted : ∀ w, w ∈ r.additions ↔ Insertion.firstSource? mode made w = some .identifier
  nodup : r.additions.Nodup

namespace Record.Reflects

variable {mode : Mode} {r r' : Record} {made : List Insertion} {i : Insertion} {w : Text}

theorem mem_words (h : r.Reflects mode made) : w ∈ r.words ↔ ∃ i ∈ made, w ∈ i.words mode := by
  rw [h.gains.words]
  simp only [WordSet.not_mem_empty, false_or, Insertion.mem_words]
  constructor
  · rintro ⟨token, ⟨i, hi, htoken⟩, hw⟩
    exact ⟨i, hi, token, htoken, hw⟩
  · rintro ⟨i, hi, token, htoken, hw⟩
    exact ⟨token, ⟨i, hi, htoken⟩, hw⟩

theorem firstSource?_eq_none_iff (h : r.Reflects mode made) :
    Insertion.firstSource? mode made w = none ↔ w ∉ r.words := by
  rw [Insertion.firstSource?_eq_none_iff, h.mem_words]
  simp

/-- One more insertion: its words are noted that come from a name in a file and are new. -/
theorem concat {new : List Text} (h : r.Reflects mode made)
    (gains : r.words.Gains mode (· = i.token) r'.words)
    (additions : r'.additions = r.additions ++ new) (nodup : new.Nodup)
    (mem_new : ∀ w, w ∈ new ↔ i.source = .identifier ∧ w ∈ i.words mode ∧ w ∉ r.words) :
    r'.Reflects mode (made ++ [i]) where
  gains := by
    apply (h.gains.trans gains).congr
    intro v
    simp [or_and_right, exists_or, eq_comm]
  noted w := by
    rw [additions, List.mem_append, mem_new, h.noted, ← h.firstSource?_eq_none_iff,
      Insertion.firstSource?_append, Insertion.firstSource?_singleton]
    cases first : Insertion.firstSource? mode made w with
    | none => simp [and_comm]
    | some source => simp
  nodup := by
    rw [additions]
    refine List.nodup_append.2 ⟨h.nodup, nodup, ?_⟩
    rintro w hw _ hnew rfl
    have first : Insertion.firstSource? mode made w = none :=
      h.firstSource?_eq_none_iff.2 ((mem_new w).1 hnew).2.2
    rw [(h.noted w).1 hw] at first
    cases first

/-- One more insertion, which does not come from a name in a file. -/
theorem concat_silent (h : r.Reflects mode made) (hi : i.source ≠ .identifier)
    (gains : r.words.Gains mode (· = i.token) r'.words) (events : r'.events = r.events) :
    r'.Reflects mode (made ++ [i]) := by
  have none_new : ∀ w, w ∈ [] ↔ i.source = .identifier ∧ w ∈ i.words mode ∧ w ∉ r.words := by
    simp [hi]
  refine h.concat gains ?_ .nil none_new
  rw [additions, additions, events, List.append_nil]

end Record.Reflects

namespace Scan

variable {guide : Guide} {mode : Mode} {further : List Text}

theorem gains_wordsOfAll (s : WordSet) (tokens : List Text) :
    s.Gains mode (fun v => ∃ token ∈ tokens, .text token = v)
      (s.addAll (mode.wordsOfAll tokens)) := by
  induction tokens generalizing s with
  | nil => exact (WordSet.Gains.none mode s).congr (by simp)
  | cons token tokens ih =>
    rw [Mode.wordsOfAll_cons, WordSet.addAll_append]
    apply ((WordSet.Gains.text mode s token).trans (ih _)).congr
    intro v
    simp [eq_comm]

theorem reflects_started (mode : Mode) (further : List Text) : (started mode further).Reflects mode
    (Insertion.ofTokens .vocabulary (Vocabulary.tokens further)) := by
  have none : (started mode further).additions = [] := by
    rw [Record.additions, events_started]
    rfl
  refine ⟨?_, fun w => ?_, none ▸ .nil⟩
  · rw [words_started]
    apply (gains_wordsOfAll ∅ (Vocabulary.tokens further)).congr
    intro v
    simp [Insertion.ofTokens]
  · rw [none, Insertion.firstSource?_ofTokens]
    simp

/-! ## One insertion of a scan -/

theorem events_addName (name : Json) (r : Record) :
    ((addName mode name).perform r).2.events = r.events := by
  unfold addName
  split
  · rfl
  · rw [perform_get_bind]
    cases r.words.addValue name <;> rfl
  · split <;> rfl

/-- The words of a name in a file are noted if they are new. -/
theorem additions_addIdentifier {name : Text} {r r' : Record}
    (performed : (addIdentifier mode name).perform r = (.ok (), r')) :
    r'.additions = r.additions ++ (mode.words name).filter (· ∉ r.words) := by
  rw [addIdentifier] at performed
  rcases Mode.words_eq_nil_or_singleton mode name with h | ⟨w, h⟩
  · rw [h] at performed ⊢
    obtain rfl : r = r' := congrArg Prod.snd performed
    exact (List.append_nil _).symm
  · rw [h] at performed ⊢
    have added : ([w].forM addWord).perform r = (.ok (), { r with
        words := r.words.add w
        events := (if w ∈ r.words then [] else [.adding w]) ++ r.events }) :=
      perform_bind_ok (perform_addWord w r)
    obtain rfl := congrArg Prod.snd (added.symm.trans performed)
    by_cases hw : w ∈ r.words <;> simp [Record.additions, hw, Event.added?]

/-! ## What a scan owes -/

variable {α β : Type} {part : Scan α} {next : α → Scan β} {r r' : Record}
  {owed rest : List Insertion}

/-- All insertions to which the answers up to now lead have been made, but for those that are
owed. -/
def Owes (guide : Guide) (mode : Mode) (further : List Text) (r : Record)
    (owed : List Insertion) : Prop :=
  ∃ made, r.Reflects mode made ∧ history further (guide.dialogue r.events) = made ++ owed

namespace Owes

/-- What is said adds to what is owed. -/
theorem say (h : Owes guide mode further r owed) (said : List Exchange)
    (words : r'.words = r.words) (additions : r'.additions = r.additions)
    (dialogue : guide.dialogue r'.events = guide.dialogue r.events ++ said) :
    Owes guide mode further r' (owed ++ said.flatMap Exchange.insertions) := by
  obtain ⟨made, reflects, made_owed⟩ := h
  refine ⟨made, ?_, ?_⟩
  · exact ⟨words ▸ reflects.gains, additions ▸ reflects.noted, additions ▸ reflects.nodup⟩
  · rw [dialogue, history, List.flatMap_append, ← List.append_assoc, ← history, made_owed,
      List.append_assoc]

/-- An insertion is made that is owed. -/
theorem pay {i : Insertion} (h : Owes guide mode further r (i :: rest))
    (inserted : ∀ made, r.Reflects mode made → r'.Reflects mode (made ++ [i]))
    (dialogue : guide.dialogue r'.events = guide.dialogue r.events) :
    Owes guide mode further r' rest := by
  obtain ⟨made, reflects, made_owed⟩ := h
  refine ⟨made ++ [i], inserted made reflects, ?_⟩
  rw [dialogue, made_owed, List.append_assoc, List.singleton_append]

end Owes

/-- A part of a scan that owes some insertions, and is done, owes others then. -/
def Pays (guide : Guide) (mode : Mode) (further : List Text) (part : Scan α)
    (before : List Insertion) (after : α → List Insertion) : Prop :=
  ∀ r x r', Owes guide mode further r before → part.perform r = (.ok x, r') →
    Owes guide mode further r' (after x)

namespace Pays

theorem pure (x : α) (after : α → List Insertion) :
    Pays guide mode further (pure x) (after x) after := by
  rintro r _ _ owes ⟨⟩
  exact owes

theorem check (x : Except Fault α) :
    Pays guide mode further (Scan.check x) owed fun _ => owed := by
  intro r y r' owes performed
  cases x <;> cases performed
  exact owes

theorem bind {before : List Insertion} {between : α → List Insertion}
    {after : β → List Insertion} (h : Pays guide mode further part before between)
    (hnext : ∀ x, Pays guide mode further (next x) (between x) after) :
    Pays guide mode further (part >>= next) before after := by
  intro r y r'' owes performed
  obtain ⟨x, r', hpart, hnext'⟩ := exists_of_perform_bind performed
  exact hnext x r' y r'' (h r x r' owes hpart) hnext'

/-- A part that is repeated for the items of a list. What it owes depends on the items that are
left. -/
theorem forM {ι : Type} {body : ι → Scan Unit} (owed : List ι → List Insertion)
    (h : ∀ i is, Pays guide mode further (body i) (owed (i :: is)) fun _ => owed is)
    (is : List ι) : Pays guide mode further (is.forM body) (owed is) fun _ => owed [] := by
  induction is with
  | nil => exact pure () fun _ => owed []
  | cons i is ih => exact bind (h i is) fun _ => ih

/-- A step that inserts and says nothing. -/
theorem idle {part : Scan Unit} {step : Record → Record}
    (performed : ∀ r, part.perform r = (.ok (), step r)) (words : ∀ r, (step r).words = r.words)
    (additions : ∀ r, (step r).additions = r.additions)
    (dialogue : ∀ r, guide.dialogue (step r).events = guide.dialogue r.events) :
    Pays guide mode further part owed fun _ => owed := by
  intro r _ r' owes hp
  obtain rfl : step r = r' := congrArg Prod.snd ((performed r).symm.trans hp)
  have said := owes.say [] (words r) (additions r) ((dialogue r).trans (List.append_nil _).symm)
  rwa [List.flatMap_nil, List.append_nil] at said

theorem happens {e : Event} (unnoted : e.added? = none)
    (h : ∀ before, guide.exchange? before e = none) :
    Pays guide mode further (Scan.happens e) owed fun _ => owed := by
  refine idle (perform_happens e) (fun _ => rfl) (fun r => ?_) fun r => ?_
  · rw [Record.additions, List.filterMap_cons_none unnoted, Record.additions]
  · exact Guide.dialogue_cons_of_none (h r.events)

/-- A question that is put, and answered. -/
theorem ask {question : Event} {answer : List Event → Except Failure α}
    (exchange : Except Failure α → Exchange) (unnoted : question.added? = none)
    (h : ∀ before, guide.exchange? before question = some (exchange (answer before))) :
    Pays guide mode further (Scan.ask question answer) []
      fun x => (exchange (.ok x)).insertions := by
  intro r x r' owes performed
  rw [perform_ask] at performed
  obtain ⟨answered, rfl⟩ := Prod.mk.inj performed
  have additions : { r with events := question :: r.events }.additions = r.additions := by
    rw [Record.additions, List.filterMap_cons_none unnoted, Record.additions]
  have said : Owes guide mode further { r with events := question :: r.events } _ :=
    owes.say [exchange (.ok x)] rfl additions
      (answered ▸ Guide.dialogue_cons_of_some (h r.events))
  rwa [List.flatMap_singleton, List.nil_append] at said

end Pays

/-! ## The parts of a scan -/

theorem pays_addName (name : Json) :
    Pays guide mode further (addName mode name) (⟨.package, name⟩ :: rest) fun _ => rest := by
  intro r _ r' owes performed
  have events : r'.events = r.events := by
    rw [← events_addName name r, performed]
  have gathers : Gathers mode (addName mode name) _ _ := gathers_addName name
  obtain ⟨-, r'', hp, gains⟩ | ⟨-, f, r'', hp⟩ := gathers r
  · obtain rfl : r'' = r' := congrArg Prod.snd (hp.symm.trans performed)
    exact owes.pay (fun made reflects => reflects.concat_silent nofun gains events)
      (congrArg guide.dialogue events)
  · cases hp.symm.trans performed

theorem pays_addIdentifier (name : Text) :
    Pays guide mode further (addIdentifier mode name) (⟨.identifier, .text name⟩ :: rest)
      fun _ => rest := by
  intro r _ r' owes performed
  obtain ⟨r'', hp, hwords, -, -, dialogue⟩ := perform_forM_addWord guide (mode.words name) r
  obtain rfl : r'' = r' := congrArg Prod.snd (hp.symm.trans performed)
  refine owes.pay (fun made reflects => ?_) dialogue
  have gains : r.words.Gains mode (· = .text name) r''.words := hwords ▸ .text mode r.words name
  refine reflects.concat gains (additions_addIdentifier performed) ?_ ?_
  · exact (Mode.nodup_words mode name).filter _
  · intro w
    simp [Insertion.words]

theorem pays_file (path : Path) :
    Pays guide mode further (file guide mode path) [] fun _ => [] := by
  refine (Pays.ask (.extracting path) rfl fun _ => rfl).bind fun names => ?_
  exact .forM (Insertion.ofTokens .identifier) (fun name _ => pays_addIdentifier name) names

theorem pays_package (p : Package) :
    Pays guide mode further (package guide mode p) [⟨.package, p.name⟩] fun _ => [] := by
  refine (Pays.happens rfl fun _ => rfl).bind fun _ => ?_
  refine (pays_addName p.name).bind fun _ => ?_
  refine (Pays.check p.filePaths).bind fun paths => ?_
  exact .forM (fun _ => []) (fun path _ => pays_file path) paths

theorem pays_skip (importPaths : List Text) :
    Pays guide mode further (skip importPaths) [] fun _ => [] :=
  .forM (fun _ => []) (fun _ _ => .happens rfl fun _ => rfl) importPaths

theorem pays_stop (s : Stop) : Pays guide mode further (stop guide mode s) [] fun _ => [] := by
  have visited : Pays guide mode further (visit guide s) [] fun p => [⟨.package, p.name⟩] :=
    (pays_skip s.skipped).bind fun _ => .ask (.resolving s.importPath) rfl fun _ => rfl
  have counted : Pays guide mode further
      (modify fun r => { r with finished := r.finished + 1 } : Scan Unit) [] fun _ => [] :=
    .idle (fun _ => rfl) (fun _ => rfl) (fun _ => rfl) fun _ => rfl
  refine visited.bind fun p => ?_
  refine (Pays.happens rfl fun _ => rfl).bind fun _ => ?_
  refine (pays_package p).bind fun _ => ?_
  exact counted.bind fun _ => .happens rfl fun _ => rfl

theorem pays_packages : Pays guide mode further (packages guide mode) [] fun _ => [] := by
  have listed : Pays guide mode further (list guide) [] fun _ => [] :=
    (Pays.ask .listing rfl fun _ => rfl).bind fun importPaths =>
      .pure (Itinerary.ofList importPaths) fun _ => []
  have stopped : ∀ way : Itinerary,
      Pays guide mode further (way.stops.forM (stop guide mode)) [] fun _ => [] :=
    fun way => .forM (fun _ => []) (fun s _ => pays_stop s) way.stops
  refine listed.bind fun way => ?_
  exact (stopped way).bind fun _ => pays_skip way.rest

/-! ## The whole scan -/

/-- In the end all insertions have been made. -/
theorem reflects_run {s : WordSet} (h : (run guide mode further).result = .ok s) :
    ∃ r : Record, r.words = s ∧ r.additions = (run guide mode further).additions ∧
      r.Reflects mode (history further ((run guide mode further).dialogue guide)) := by
  have start : Owes guide mode further (started mode further) [] := by
    refine ⟨_, reflects_started mode further, ?_⟩
    rw [events_started]
    rfl
  cases performed : (packages guide mode).perform (started mode further) with
  | mk result r =>
    cases result with
    | error f =>
      rw [run_of_error performed] at h
      cases h
    | ok _ =>
      rw [run_of_ok performed] at h ⊢
      refine ⟨r, Except.ok.inj h, ?_, ?_⟩
      · rw [Outcome.additions_left, List.filterMap_cons_none rfl, Record.additions]
      · obtain ⟨made, reflects, all_made⟩ := pays_packages _ _ r start performed
        rw [Outcome.dialogue_left, Guide.dialogue_cons_of_none rfl, all_made, List.append_nil]
        exact reflects

theorem mem_history {dialogue : List Exchange} {i : Insertion} : i ∈ history further dialogue ↔
    i ∈ Insertion.ofTokens .vocabulary (Vocabulary.tokens further) ∨
    (∃ p ∈ dialogue.filterMap Exchange.package?, i = ⟨.package, p.name⟩) ∨
    ∃ path names, .extracting path (.ok names) ∈ dialogue ∧
      i ∈ Insertion.ofTokens .identifier names := by
  rw [history, List.mem_append]
  apply or_congr_right
  constructor
  · intro h
    obtain ⟨x, hx, hi⟩ := List.mem_flatMap.1 h
    unfold Exchange.insertions at hi
    split at hi
    · next p => exact .inl ⟨p, List.mem_filterMap.2 ⟨_, hx, rfl⟩, List.mem_singleton.1 hi⟩
    · next path names => exact .inr ⟨path, names, hx, hi⟩
    · cases hi
  · rintro (⟨p, hp, rfl⟩ | ⟨path, names, hx, hi⟩)
    · obtain ⟨x, hx, given⟩ := List.mem_filterMap.1 hp
      unfold Exchange.package? at given
      split at given <;> cases given
      exact List.mem_flatMap.2 ⟨_, hx, List.mem_singleton_self _⟩
    · exact List.mem_flatMap.2 ⟨_, hx, hi⟩

/-- The words of a scan are those of the vocabulary and the further words, those of the names of
packages, and the noted ones. -/
theorem mem_run_iff_noted {s : WordSet} (h : (run guide mode further).result = .ok s) (w : Text) :
    w ∈ s ↔ w ∈ mode.wordsOfAll (Vocabulary.tokens further) ∨
      (∃ p ∈ (run guide mode further).packages guide, ∃ name : Text, p.name = .text name ∧
        w ∈ mode.words name) ∨
      w ∈ (run guide mode further).additions := by
  obtain ⟨r, rfl, additions, reflects⟩ := reflects_run h
  rw [← additions, reflects.noted]
  constructor
  · intro hw
    cases first : Insertion.firstSource? mode _ w with
    | none => exact absurd hw (reflects.firstSource?_eq_none_iff.1 first)
    | some source =>
      obtain ⟨i, hi, rfl, hiw⟩ := Insertion.exists_of_firstSource? first
      rcases mem_history.1 hi with hi | ⟨p, hp, rfl⟩ | ⟨path, names, -, hi⟩
      · exact .inl (Insertion.exists_mem_ofTokens.1 ⟨i, hi, hiw⟩)
      · obtain ⟨name, hname, hwords⟩ := Insertion.mem_words.1 hiw
        exact .inr (.inl ⟨p, hp, name, hname, hwords⟩)
      · exact .inr (.inr (congrArg some (Insertion.source_of_mem_ofTokens hi)))
  · rw [reflects.mem_words]
    rintro (hw | ⟨p, hp, name, hname, hw⟩ | hw)
    · obtain ⟨i, hi, hiw⟩ := Insertion.exists_mem_ofTokens.2 hw
      exact ⟨i, mem_history.2 (.inl hi), hiw⟩
    · exact ⟨_, mem_history.2 (.inr (.inl ⟨p, hp, rfl⟩)), Insertion.mem_words.2 ⟨name, hname, hw⟩⟩
    · obtain ⟨i, hi, -, hiw⟩ := Insertion.exists_of_firstSource? hw
      exact ⟨i, hi, hiw⟩

/-- The members that are no texts are names of packages. -/
theorem hasOther_run_iff {s : WordSet} (h : (run guide mode further).result = .ok s) (u : Json) :
    s.HasOther u ↔ ∃ p ∈ (run guide mode further).packages guide,
      p.name.isOther = true ∧ p.name.sameScalar u = true := by
  obtain ⟨r, rfl, -, reflects⟩ := reflects_run h
  have none : ¬ (∅ : WordSet).HasOther u := fun ⟨v, hv, _⟩ => absurd hv List.not_mem_nil
  rw [reflects.gains.others, or_iff_right none]
  constructor
  · rintro ⟨_, ⟨i, hi, rfl⟩, other, same⟩
    rcases mem_history.1 hi with hi | ⟨p, hp, rfl⟩ | ⟨path, names, -, hi⟩
    · exact nomatch (Insertion.isOther_of_mem_ofTokens hi).symm.trans other
    · exact ⟨p, hp, other, same⟩
    · exact nomatch (Insertion.isOther_of_mem_ofTokens hi).symm.trans other
  · rintro ⟨p, hp, other, same⟩
    exact ⟨p.name, ⟨_, mem_history.2 (.inr (.inl ⟨p, hp, rfl⟩)), rfl⟩, other, same⟩

/-- **What the notes say**: a scan that gives a set notes no word twice, and it notes those words
whose first insertion comes from a name in a file. So the words of the set are those of the
vocabulary and the further words, those of the names of packages, and the noted ones, and none of
the noted ones is one of the first; members that are no texts are names of packages. The lines of
debug output that begin as notes on words are one for each noted word, in this order. -/
theorem run_notes_first_insertions (guide : Guide) (mode : Mode) (further : List Text)
    (s : WordSet) (h : (run guide mode further).result = .ok s) :
    let o := run guide mode further
    o.additions.Nodup ∧
    (∀ w, w ∈ o.additions ↔
      Insertion.firstSource? mode (history further (o.dialogue guide)) w = some .identifier) ∧
    (∀ w, w ∈ s ↔ w ∈ mode.wordsOfAll (Vocabulary.tokens further) ∨
      (∃ p ∈ o.packages guide, ∃ name : Text, p.name = .text name ∧ w ∈ mode.words name) ∨
      w ∈ o.additions) ∧
    (∀ u, s.HasOther u ↔
      ∃ p ∈ o.packages guide, p.name.isOther = true ∧ p.name.sameScalar u = true) ∧
    (∀ w ∈ o.additions, w ∉ mode.wordsOfAll (Vocabulary.tokens further)) ∧
    (o.trace.filterMap Event.note?).filter ((Text.ofString "adding ").isPrefixOf ·) =
      o.additions.map (Text.ofString "adding " ++ ·.quoted) := by
  intro o
  obtain ⟨r, -, additions, reflects⟩ := reflects_run h
  have noted : ∀ w, w ∈ o.additions ↔
      Insertion.firstSource? mode (history further (o.dialogue guide)) w = some .identifier :=
    fun w => additions ▸ reflects.noted w
  refine ⟨additions ▸ reflects.nodup, noted, mem_run_iff_noted h, hasOther_run_iff h, ?_,
    Event.filter_notes o.trace⟩
  intro w hw first
  have source := (noted w).1 hw
  rw [history, Insertion.firstSource?_append, Insertion.firstSource?_ofTokens,
    if_pos first] at source
  cases source

/-- Names in a file, of which one is a word of the vocabulary, and one the name of the package. -/
def printNames : List Text := ["Println", "Fprintf", "Fprintf2", "Fmt"]

theorem run_notes_smallLibrary :
    let o := run (.of smallLibrary fun _ => .ok printNames) .strict []
    ∃ s, o.result = .ok s ∧ o.additions = ["fprintf"] ∧
      Insertion.firstSource? .strict
        (history [] (o.dialogue (.of smallLibrary fun _ => .ok printNames))) "fprintf" =
          some .identifier := by
  intro o
  obtain ⟨s, hs⟩ : ∃ s, o.result = .ok s :=
    (run_of_ok_iff isNamed_smallLibrary).2 (isReadable_smallLibrary printNames)
  have additions : o.additions = ["fprintf"] := by decide +kernel
  obtain ⟨-, noted, -⟩ := run_notes_first_insertions _ .strict [] s hs
  exact ⟨s, hs, additions, (noted _).1 (additions ▸ List.mem_singleton_self _)⟩

end Scan

end GoLexicon
