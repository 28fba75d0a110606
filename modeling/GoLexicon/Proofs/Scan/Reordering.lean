import GoLexicon.Proofs.Scan.Library
import GoLexicon.Proofs.Word.Values
/-!
# Libraries in another order

Where answers are fixed, it does not depend on the record whether a part of a scan can be done, and
which values it adds (`Scan.Gathers`). For a part that is repeated for the items of a list it
depends on which items there are, but neither on their order nor on how often they come
(`Scan.Gathers.forM`). So what a library adds is said by its packages and their files
(`Scan.run_gains`), and this is the same for two libraries that differ in their order only
(`Catalog.Matches`).

The names of packages need not be texts. A set keeps one of some equal values that are none, so two
sets are then compared by the values that are found in them.
-/

namespace GoLexicon

/-! ## Sets that gain values -/

/-- A mode does not refuse a value. -/
def Mode.takes (mode : Mode) (v : Json) : Bool :=
  !v.isOther || (mode = .verbatim && WordSet.isFit v)

/-- One set becomes another one when some values are added: what a mode makes of those that are
texts, and the other ones as they are. -/
structure WordSet.Gains (mode : Mode) (s : WordSet) (added : Json → Prop) (t : WordSet) : Prop where
  words : ∀ w, w ∈ t ↔ w ∈ s ∨ ∃ token, added (.text token) ∧ w ∈ mode.words token
  others : ∀ u, t.HasOther u ↔
    s.HasOther u ∨ ∃ v, added v ∧ v.isOther = true ∧ v.sameScalar u = true
  plain : t.others = [] ↔ s.others = [] ∧ ∀ v, added v → v.isOther = false

namespace WordSet.Gains

variable {mode : Mode} {s t t' : WordSet} {added added' : Json → Prop}

theorem congr (h : s.Gains mode added t) (hadded : ∀ v, added v ↔ added' v) :
    s.Gains mode added' t := by
  obtain rfl : added = added' := funext fun v => propext (hadded v)
  exact h

theorem none (mode : Mode) (s : WordSet) : s.Gains mode (fun _ => False) s := by
  constructor <;> simp

theorem trans (h : s.Gains mode added t) (h' : t.Gains mode added' t') :
    s.Gains mode (fun v => added v ∨ added' v) t' where
  words w := by
    rw [h'.words, h.words]
    simp only [or_and_right, exists_or, or_assoc]
  others u := by
    rw [h'.others, h.others]
    simp only [or_and_right, exists_or, or_assoc]
  plain := by
    rw [h'.plain, h.plain]
    simp only [or_imp, forall_and, and_assoc]

/-- The words of a token. -/
theorem text (mode : Mode) (s : WordSet) (token : Text) :
    s.Gains mode (· = .text token) (s.addAll (mode.words token)) where
  words w := by
    simp only [mem_addAll_words, Json.text.injEq, exists_eq_left]
  others u := by
    simp [HasOther, Json.isOther]
  plain := by
    simp [Json.isOther]

/-- A value that says nothing. -/
theorem empty (mode : Mode) (s : WordSet) {v : Json} (h : v.isOther = false)
    (hv : ∀ token : Text, v ≠ .text token) : s.Gains mode (· = v) s where
  words w := by
    simp [fun token => (hv token).symm]
  others u := by
    simp [h]
  plain := by
    simp [h]

/-- A value that is no text. -/
theorem other (mode : Mode) (s : WordSet) {v : Json} (h : v.isOther = true)
    (fit : isFit v = true) : ∃ t, s.addValue v = .ok t ∧ s.Gains mode (· = v) t := by
  obtain ⟨t, ht, hwords, hne, hothers⟩ := addValue_of_isOther (s := s) h fit
  refine ⟨t, ht, ⟨fun w => ?_, fun u => ?_, ?_⟩⟩
  · simp [mem_iff, hwords, fun token => (Json.ne_text_of_isOther h token).symm]
  · simp [hothers, h]
  · simp [hne, h]

/-- What a set gains does not show in which order it came. -/
theorem same (h : s.Gains mode added t) (h' : s.Gains mode added' t')
    (hadded : ∀ v, added v ↔ added' v) :
    t.words = t'.words ∧ (∀ u, t.HasOther u ↔ t'.HasOther u) ∧
      (t.others = [] ↔ t'.others = []) := by
  have h := h.congr hadded
  refine ⟨words_eq_of_mem_iff t.ascending t'.ascending fun w => ?_, fun u => ?_, ?_⟩
  · exact (h.words w).trans (h'.words w).symm
  · exact (h.others u).trans (h'.others u).symm
  · exact h.plain.trans h'.plain.symm

end WordSet.Gains

/-! ## What a part of a scan gathers -/

namespace Scan

variable {α β : Type}

/-- A part of a scan comes to a fixed result, and adds nothing. -/
def Tells (part : Scan α) (x : Except Failure α) : Prop :=
  ∀ r, ∃ r', part.perform r = (x, r') ∧ r'.words = r.words

/-- Whatever the record, a part of a scan can be done and adds some values, or it fails. -/
def Gathers (mode : Mode) (part : Scan Unit) (possible : Prop) (added : Json → Prop) : Prop :=
  ∀ r, (possible ∧ ∃ r', part.perform r = (.ok (), r') ∧ r.words.Gains mode added r'.words) ∨
    (¬ possible ∧ ∃ f r', part.perform r = (.error f, r'))

section rules

variable {mode : Mode} {part next : Scan Unit} {possible possible' : Prop}
  {added added' : Json → Prop}

theorem tells_happens (e : Event) : Tells (happens e) (.ok ()) :=
  fun r => ⟨_, perform_happens e r, rfl⟩

theorem tells_ask (question : Event) (x : Except Failure α) : Tells (ask question fun _ => x) x :=
  fun r => ⟨_, perform_ask question (fun _ => x) r, rfl⟩

theorem Tells.map {part : Scan α} {x : Except Failure α} (h : Tells part x) (f : α → β) :
    Tells (part >>= fun a => pure (f a)) (x.map f) := by
  intro r
  obtain ⟨r', hp, hwords⟩ := h r
  cases x with
  | error failure => exact ⟨r', perform_bind_error hp, hwords⟩
  | ok a => exact ⟨r', perform_bind_ok hp, hwords⟩

theorem tells_skip (importPaths : List Text) : Tells (skip importPaths) (.ok ()) := by
  induction importPaths with
  | nil => exact fun r => ⟨r, rfl, rfl⟩
  | cons importPath importPaths ih =>
    intro r
    obtain ⟨r', hp, hwords⟩ := ih { r with events := .skipped importPath :: r.events }
    exact ⟨r', (perform_bind_ok (perform_happens _ r)).trans hp, hwords⟩

namespace Gathers

theorem congr (h : Gathers mode part possible added) (hpossible : possible ↔ possible')
    (hadded : possible → ∀ v, added v ↔ added' v) : Gathers mode part possible' added' := by
  intro r
  obtain ⟨hp, r', hperform, hgains⟩ | ⟨impossible, failed⟩ := h r
  · exact .inl ⟨hpossible.1 hp, r', hperform, hgains.congr (hadded hp)⟩
  · exact .inr ⟨fun hp => impossible (hpossible.2 hp), failed⟩

theorem of_tells (h : Tells part (.ok ())) : Gathers mode part True fun _ => False := by
  intro r
  obtain ⟨r', hp, hwords⟩ := h r
  refine .inl ⟨trivial, r', hp, ?_⟩
  rw [hwords]
  exact .none mode r.words

/-- One part behind another one. -/
theorem bind (h : Gathers mode part possible added) (hnext : Gathers mode next possible' added') :
    Gathers mode (part >>= fun _ => next) (possible ∧ possible') fun v => added v ∨ added' v := by
  intro r
  obtain ⟨hpossible, r', hp, hgains⟩ | ⟨impossible, f, r', hp⟩ := h r
  · obtain ⟨hpossible', r'', hp', hgains'⟩ | ⟨impossible', f, r'', hp'⟩ := hnext r'
    · exact .inl ⟨⟨hpossible, hpossible'⟩, r'', (perform_bind_ok hp).trans hp',
        hgains.trans hgains'⟩
    · exact .inr ⟨fun h => impossible' h.2, f, r'', (perform_bind_ok hp).trans hp'⟩
  · exact .inr ⟨fun h => impossible h.1, f, r', perform_bind_error hp⟩

section told

variable {part : Scan α} {next : α → Scan Unit}

/-- A part behind one that adds nothing. -/
theorem after {a : α} (h : Tells part (.ok a)) (hnext : Gathers mode (next a) possible added) :
    Gathers mode (part >>= next) possible added := by
  intro r
  obtain ⟨r', hp, hwords⟩ := h r
  rw [perform_bind_ok hp, ← hwords]
  exact hnext r'

theorem of_refused {f : Failure} (h : Tells part (.error f)) (impossible : ¬ possible) :
    Gathers mode (part >>= next) possible added := by
  intro r
  obtain ⟨r', hp, -⟩ := h r
  exact .inr ⟨impossible, f, r', perform_bind_error hp⟩

/-- A part behind one that is told something, or refused it. -/
theorem of_told {x : Except Failure α} {possible : α → Prop} {added : α → Json → Prop}
    (h : Tells part x)
    (hnext : ∀ a, x = .ok a → Gathers mode (next a) (possible a) (added a)) :
    Gathers mode (part >>= next) (∃ a, x = .ok a ∧ possible a)
      fun v => ∃ a, x = .ok a ∧ added a v := by
  cases x with
  | error f => exact of_refused h (by simp)
  | ok a => simpa using after h (hnext a rfl)

end told

theorem of_checked {x : Except Fault α} {next : α → Scan Unit} {possible : α → Prop}
    {added : α → Json → Prop}
    (hnext : ∀ a, x = .ok a → Gathers mode (next a) (possible a) (added a)) :
    Gathers mode (check x >>= next) (∃ a, x = .ok a ∧ possible a)
      fun v => ∃ a, x = .ok a ∧ added a v := by
  cases x with
  | error fault =>
    have refused : Tells (check (.error fault) : Scan α) (.error (.fault fault)) :=
      fun r => ⟨r, rfl, rfl⟩
    exact of_refused refused (by simp)
  | ok a =>
    have passed : Tells (check (.ok a)) (.ok a) := fun r => ⟨r, rfl, rfl⟩
    simpa using after passed (hnext a rfl)

/-- A part that is repeated for the items of a list can be done if it can be done for each item, and
adds what it adds for any item. -/
theorem forM {ι : Type} {body : ι → Scan Unit} {possible : ι → Prop} {added : ι → Json → Prop}
    {is : List ι} (h : ∀ i ∈ is, Gathers mode (body i) (possible i) (added i)) :
    Gathers mode (is.forM body) (∀ i ∈ is, possible i) fun v => ∃ i ∈ is, added i v := by
  induction is with
  | nil =>
    have nothing : Tells (pure () : Scan Unit) (.ok ()) := fun r => ⟨r, rfl, rfl⟩
    exact (of_tells nothing).congr (by simp) (by simp)
  | cons i is ih =>
    have hfirst := h i List.mem_cons_self
    have hrest := ih fun j hj => h j (List.mem_cons_of_mem i hj)
    exact (hfirst.bind hrest).congr (by simp) (by simp)

end Gathers

end rules

end Scan

/-! ## What a library adds -/

namespace Package

variable (p : Package) (extract : Extractor)

/-- The names of each file of a package are given. -/
def IsReadable : Prop :=
  ∀ v ∈ p.files, ∃ path names, filePath p.directory v = .ok path ∧ extract path = .ok names

/-- A value is the name of a package, or one of the names that its files declare. -/
def Brings (v : Json) : Prop :=
  v = p.name ∨
    ∃ path names, p.HasFile path ∧ extract path = .ok names ∧ ∃ name ∈ names, v = .text name

variable {p extract}

theorem isReadable_iff : p.IsReadable extract ↔
    ∃ paths, p.filePaths = .ok paths ∧ ∀ path ∈ paths, ∃ names, extract path = .ok names := by
  constructor
  · intro readable
    cases hpaths : p.filePaths with
    | error fault =>
      obtain ⟨v, hv, hfault⟩ := exists_of_filePaths_eq_error hpaths
      obtain ⟨path, names, hpath, -⟩ := readable v hv
      exact nomatch hfault.symm.trans hpath
    | ok paths =>
      refine ⟨paths, rfl, fun path hpath => ?_⟩
      obtain ⟨v, hv, hplaced⟩ := (mem_filePaths hpaths).1 hpath
      obtain ⟨path', names, hpath', hnames⟩ := readable v hv
      obtain rfl : path' = path := Except.ok.inj (hpath'.symm.trans hplaced)
      exact ⟨names, hnames⟩
  · rintro ⟨paths, hpaths, given⟩ v hv
    obtain ⟨path, hpath, hplaced⟩ := Except.exists_of_mapM_eq_ok hpaths hv
    obtain ⟨names, hnames⟩ := given path hpath
    exact ⟨path, names, hplaced, hnames⟩

end Package

namespace Catalog

variable (c : Catalog) (mode : Mode) (extract : Extractor)

/-- The list of a catalog is given, and so is a package for each import path in it that is not
internal, and this package can be scanned in a mode. -/
def IsScannable : Prop :=
  ∃ importPaths, c.list = .ok importPaths ∧ ∀ importPath ∈ publicPaths importPaths,
    ∃ p, c.resolve importPath = .ok p ∧ mode.takes p.name = true ∧ p.IsReadable extract

/-- A value is brought by a package that a catalog offers. -/
def Brings (v : Json) : Prop := ∃ p, c.Offers p ∧ p.Brings extract v

end Catalog

namespace Scan

variable {c : Catalog} {mode : Mode} {extract : Extractor}

theorem gathers_addName (name : Json) :
    Gathers mode (addName mode name) (mode.takes name = true) (· = name) := by
  intro r
  unfold addName
  split
  · next token => exact .inl ⟨rfl, _, rfl, .text _ r.words token⟩
  · next hname =>
    cases other : name.isOther with
    | false =>
      have kept : r.words.addValue name = .ok r.words :=
        WordSet.addValue_of_not_isOther other hname
      refine .inl ⟨by simp [Mode.takes, other], r, ?_, .empty _ r.words other hname⟩
      rw [perform_get_bind, kept]
      rfl
    | true =>
      cases fit : WordSet.isFit name with
      | false =>
        have refused : r.words.addValue name = .error (WordSet.unfit name) :=
          WordSet.addValue_of_not_isFit other fit
        refine .inr ⟨by simp [Mode.takes, other, fit], .fault (WordSet.unfit name), r, ?_⟩
        rw [perform_get_bind, refused]
        rfl
      | true =>
        obtain ⟨words, hwords, gains⟩ := WordSet.Gains.other .verbatim r.words other fit
        refine .inl ⟨by simp [Mode.takes, other, fit], { r with words := words }, ?_, gains⟩
        rw [perform_get_bind, hwords]
        rfl
  · next hname =>
    rw [Mode.takes, Json.isOther_of_ne_text hname]
    cases filled : name.isFilled with
    | false =>
      have empty : name.isOther = false := (Json.isOther_of_ne_text hname).trans filled
      exact .inl ⟨rfl, r, rfl, .empty _ r.words empty hname⟩
    | true => exact .inr ⟨nofun, _, r, rfl⟩

theorem gathers_file (path : Path) :
    Gathers mode (file (.of c extract) mode path) (∃ names, extract path = .ok names)
      fun v => ∃ names, extract path = .ok names ∧ ∃ name ∈ names, v = .text name := by
  have added : ∀ name, Gathers mode (addIdentifier mode name) True (· = .text name) := by
    intro name r
    obtain ⟨r', hp, hwords, -⟩ := perform_forM_addWord (.of c extract) (mode.words name) r
    refine .inl ⟨trivial, r', hp, ?_⟩
    rw [hwords]
    exact .text mode r.words name
  have asked : Tells (ask (.extracted path) fun _ => extract path) (extract path) :=
    tells_ask _ _
  refine (Gathers.of_told asked fun names _ => .forM fun name _ => added name).congr ?_ ?_
  · simp
  · simp

theorem gathers_package (p : Package) :
    Gathers mode (package (.of c extract) mode p) (mode.takes p.name = true ∧ p.IsReadable extract)
      (p.Brings extract) := by
  have files : Gathers mode (check p.filePaths >>= fun paths =>
      paths.forM (file (.of c extract) mode)) _ _ :=
    .of_checked fun paths _ => .forM fun path _ => gathers_file path
  refine .after (tells_happens _) (((gathers_addName p.name).bind files).congr ?_ ?_)
  · rw [Package.isReadable_iff]
  · rintro ⟨-, paths, hpaths, -⟩ v
    simp only [Package.Brings, hpaths, Except.ok.injEq, exists_eq_left',
      Package.mem_filePaths hpaths, exists_and_left]

theorem gathers_stop (s : Stop) :
    Gathers mode (stop (.of c extract) mode s)
      (∃ p, c.resolve s.importPath = .ok p ∧ mode.takes p.name = true ∧ p.IsReadable extract)
      fun v => ∃ p, c.resolve s.importPath = .ok p ∧ p.Brings extract v := by
  have asked : Tells (visit (.of c extract) s) (c.resolve s.importPath) := by
    intro r
    obtain ⟨r', hskip, hwords⟩ := tells_skip s.skipped r
    obtain ⟨r'', hask, hwords'⟩ := tells_ask (.resolved s.importPath) (c.resolve s.importPath) r'
    exact ⟨r'', (perform_bind_ok hskip).trans hask, hwords'.trans hwords⟩
  refine .of_told asked fun p _ => ?_
  have counted : Tells (modify fun r => { r with finished := r.finished + 1 } : Scan Unit)
      (.ok ()) :=
    fun _ => ⟨_, rfl, rfl⟩
  have ended : Gathers mode (happens (.packageFinished p.importPath)) True fun _ => False :=
    .of_tells (tells_happens _)
  refine .after (tells_happens _) (((gathers_package p).bind (.after counted ended)).congr ?_ ?_)
  · rw [and_true]
  · intro _ v
    rw [or_false]

theorem gathers_stops (importPaths : List Text) :
    Gathers mode ((Itinerary.ofList importPaths).stops.forM (stop (.of c extract) mode))
      (∀ importPath ∈ publicPaths importPaths,
        ∃ p, c.resolve importPath = .ok p ∧ mode.takes p.name = true ∧ p.IsReadable extract)
      fun v => ∃ importPath ∈ publicPaths importPaths,
        ∃ p, c.resolve importPath = .ok p ∧ p.Brings extract v := by
  rw [← importPath_stops_ofList]
  refine (Gathers.forM fun s _ => gathers_stop s).congr ?_ ?_
  · rw [List.forall_mem_map]
  · intro _ v
    simp only [List.mem_map, exists_exists_and_eq_and]

theorem gathers_packages :
    Gathers mode (packages (.of c extract) mode) (c.IsScannable mode extract)
      (c.Brings extract) := by
  have asked : Tells (list (.of c extract)) (c.list.map Itinerary.ofList) :=
    (tells_ask .listed c.list).map Itinerary.ofList
  cases hlist : c.list with
  | error f =>
    rw [hlist] at asked
    exact .of_refused asked (by simp [Catalog.IsScannable, hlist])
  | ok importPaths =>
    rw [hlist] at asked
    have skipped : Gathers mode (skip (Itinerary.ofList importPaths).rest) True fun _ => False :=
      .of_tells (tells_skip _)
    refine (Gathers.after asked ((gathers_stops importPaths).bind skipped)).congr ?_ ?_
    · simp [Catalog.IsScannable, hlist]
    · intro _ v
      simp only [or_false, Catalog.Brings, Catalog.Offers, hlist, Except.ok.injEq, exists_eq_left']
      constructor
      · rintro ⟨importPath, hpath, p, hp, hv⟩
        exact ⟨p, ⟨importPath, hpath, hp⟩, hv⟩
      · rintro ⟨p, ⟨importPath, hpath, hp⟩, hv⟩
        exact ⟨importPath, hpath, p, hp, hv⟩

/-- A scan gives a set exactly when the library can be scanned, and this set is the first one with
what the library brings. -/
theorem run_gains (c : Catalog) (mode : Mode) (extract : Extractor) (further : List Text) :
    (c.IsScannable mode extract ∧ ∃ s, (run (.of c extract) mode further).result = .ok s ∧
      (seed mode further ∅).Gains mode (c.Brings extract) s) ∨
    (¬ c.IsScannable mode extract ∧ ∃ f, (run (.of c extract) mode further).result = .error f) := by
  have gathered : Gathers mode (packages (.of c extract) mode) _ _ := gathers_packages
  obtain ⟨scannable, r, hp, gains⟩ | ⟨unscannable, f, r, hp⟩ := gathered (started mode further)
  · rw [words_started] at gains
    exact .inl ⟨scannable, r.words, by rw [run_of_ok hp], gains⟩
  · exact .inr ⟨unscannable, f, by rw [run_of_error hp]⟩

end Scan

/-! ## Libraries that differ in order -/

/-- Two packages have the same name, and the same files in the same directory, in any order. -/
structure Package.Matches (p q : Package) : Prop where
  name : p.name = q.name
  directory : p.directory = q.directory
  files : ∀ v, v ∈ p.files ↔ v ∈ q.files

namespace Package.Matches

variable {p q : Package} {extract : Extractor}

theorem isReadable (h : p.Matches q) (readable : p.IsReadable extract) : q.IsReadable extract := by
  intro v hv
  rw [← h.directory]
  exact readable v ((h.files v).2 hv)

theorem hasFile (h : p.Matches q) {path : Path} (hpath : p.HasFile path) : q.HasFile path := by
  obtain ⟨v, hv, hplaced⟩ := hpath
  rw [h.directory] at hplaced
  exact ⟨v, (h.files v).1 hv, hplaced⟩

theorem brings (h : p.Matches q) {v : Json} (hv : p.Brings extract v) : q.Brings extract v := by
  rcases hv with hv | ⟨path, names, hpath, hnames⟩
  · exact .inl (hv.trans h.name)
  · exact .inr ⟨path, names, h.hasFile hpath, hnames⟩

end Package.Matches

/-- One catalog gives whatever another one gives, up to the order of files. -/
def Catalog.Covers (c' c : Catalog) : Prop :=
  ∀ importPath p, c.resolve importPath = .ok p →
    ∃ q, c'.resolve importPath = .ok q ∧ p.Matches q

/-- Two catalogs list the same import paths that are not internal, in any order and any number of
times, and give the same packages for them, up to the order of files. -/
structure Catalog.Matches (c c' : Catalog) : Prop where
  lists : ∃ importPaths importPaths', c.list = .ok importPaths ∧ c'.list = .ok importPaths' ∧
    ∀ importPath, importPath ∈ publicPaths importPaths ↔ importPath ∈ publicPaths importPaths'
  forth : c'.Covers c
  back : c.Covers c'

namespace Catalog.Matches

variable {c c' : Catalog} {mode : Mode} {extract : Extractor}

theorem symm (h : c.Matches c') : c'.Matches c := by
  obtain ⟨importPaths, importPaths', hlist, hlist', hpaths⟩ := h.lists
  have hpaths' := fun path => (hpaths path).symm
  exact ⟨⟨importPaths', importPaths, hlist', hlist, hpaths'⟩, h.back, h.forth⟩

theorem isScannable (h : c.Matches c') (scannable : c.IsScannable mode extract) :
    c'.IsScannable mode extract := by
  obtain ⟨importPaths, importPaths', hlist, hlist', hpaths⟩ := h.lists
  obtain ⟨listed, hlisted, given⟩ := scannable
  obtain rfl : importPaths = listed := Except.ok.inj (hlist.symm.trans hlisted)
  refine ⟨importPaths', hlist', fun importPath hpath => ?_⟩
  obtain ⟨p, hp, htakes, readable⟩ := given importPath ((hpaths importPath).2 hpath)
  obtain ⟨q, hq, hpq⟩ := h.forth importPath p hp
  exact ⟨q, hq, hpq.name ▸ htakes, hpq.isReadable readable⟩

theorem brings (h : c.Matches c') {v : Json} (hv : c.Brings extract v) : c'.Brings extract v := by
  obtain ⟨importPaths, importPaths', hlist, hlist', hpaths⟩ := h.lists
  obtain ⟨p, ⟨listed, hlisted, importPath, hpath, hp⟩, hv⟩ := hv
  obtain rfl : importPaths = listed := Except.ok.inj (hlist.symm.trans hlisted)
  obtain ⟨q, hq, hpq⟩ := h.forth importPath p hp
  exact ⟨q, ⟨importPaths', hlist', importPath, (hpaths importPath).1 hpath, hq⟩, hpq.brings hv⟩

end Catalog.Matches

namespace Scan

variable {mode : Mode} {further further' : List Text}

theorem seed_eq_of_mem_iff (h : ∀ t, t ∈ further ↔ t ∈ further') :
    seed mode further ∅ = seed mode further' ∅ := by
  have tokens : ∀ t, t ∈ Vocabulary.tokens further ↔ t ∈ Vocabulary.tokens further' := by
    intro t
    simp only [Vocabulary.tokens, List.mem_append, h]
  refine WordSet.ext_mem (fun w => ?_) ?_
  · simp only [mem_seed, tokens]
  · rw [seed, seed, WordSet.others_addAll, WordSet.others_addAll]

/-- No set that a scan gives is without words. -/
theorem mem_seed_break : Text.ofString "break" ∈ seed mode further ∅ := by
  have keyword : Text.ofString "break" ∈ Vocabulary.keywords := by decide +kernel
  refine mem_seed.2 ⟨"break", by simp [Vocabulary.tokens, keyword], Mode.mem_words.1 ?_⟩
  cases mode <;> decide +kernel

/-- **Order and repetition do not matter**: two libraries that list the same packages in any order,
with internal ones anywhere between them, and whose packages have the same files in any order, are
scanned with the same success, whatever the order of the further words. The two sets have the same
words and find the same values, and they are shown by the same text. If the names of all packages
are texts, it is one and the same set, and it can be shown. -/
theorem run_of_matching (c c' : Catalog) (extract : Extractor) (mode : Mode)
    (further further' : List Text) (same : c.Matches c')
    (hfurther : ∀ t, t ∈ further ↔ t ∈ further') :
    ((∃ s, (run (.of c extract) mode further).result = .ok s) ↔
      ∃ s', (run (.of c' extract) mode further').result = .ok s') ∧
    ∀ s s', (run (.of c extract) mode further).result = .ok s →
      (run (.of c' extract) mode further').result = .ok s' →
      s.words = s'.words ∧ (∀ v, s.hasValue v = s'.hasValue v) ∧
      (∀ shown, s.report = .ok shown ↔ s'.report = .ok shown) ∧
      (c.IsNamed → s = s' ∧ s.report = .ok (s.words.map .text, render s.words)) := by
  have brings : ∀ v, c.Brings extract v ↔ c'.Brings extract v :=
    fun _ => ⟨same.brings, same.symm.brings⟩
  obtain ⟨scannable, s, hs, gains⟩ | ⟨unscannable, f, hf⟩ := run_gains c mode extract further
  · obtain ⟨-, s', hs', gains'⟩ | ⟨unscannable', -⟩ := run_gains c' mode extract further'
    · refine ⟨⟨fun _ => ⟨s', hs'⟩, fun _ => ⟨s, hs⟩⟩, fun t t' ht ht' => ?_⟩
      obtain rfl : s = t := Except.ok.inj (hs.symm.trans ht)
      obtain rfl : s' = t' := Except.ok.inj (hs'.symm.trans ht')
      rw [← seed_eq_of_mem_iff hfurther] at gains'
      obtain ⟨hwords, hothers, hplain⟩ := gains.same gains' brings
      have members : ∀ w, w ∈ s ↔ w ∈ s' := fun w => by
        rw [WordSet.mem_iff, WordSet.mem_iff, hwords]
      have hne : s.words ≠ [] := List.ne_nil_of_mem ((gains.words _).2 (.inl mem_seed_break))
      refine ⟨hwords, WordSet.hasValue_congr members hothers, fun shown => ?_, fun named => ?_⟩
      · rw [WordSet.report_eq_ok_iff hne, WordSet.report_eq_ok_iff (hwords ▸ hne), hplain, hwords]
      · have none : s.others = [] := others_run (Catalog.isNamed_guide named) hs
        have none' : s'.others = [] := hplain.1 none
        exact ⟨WordSet.ext_mem members (none.trans none'.symm), WordSet.report_of_others none⟩
    · exact absurd (same.isScannable scannable) unscannable'
  · obtain ⟨scannable', -⟩ | ⟨-, f', hf'⟩ := run_gains c' mode extract further'
    · exact absurd (same.symm.isScannable scannable') unscannable
    · refine ⟨by simp [hf, hf'], fun t t' ht _ => ?_⟩
      rw [hf] at ht
      cases ht

/-- A library that lists some import paths, and has a package of some files for each. -/
def filedLibrary (importPaths : List Text) (files : List Json) : Catalog where
  list := .ok importPaths
  resolve importPath := .ok ⟨.text importPath, Path.parse "/src", files, .text "fmt"⟩

theorem matches_filedLibrary {importPaths importPaths' : List Text} {files files' : List Json}
    (hpaths : ∀ importPath,
      importPath ∈ publicPaths importPaths ↔ importPath ∈ publicPaths importPaths')
    (hfiles : ∀ v, v ∈ files ↔ v ∈ files') :
    (filedLibrary importPaths files).Matches (filedLibrary importPaths' files') where
  lists := ⟨importPaths, importPaths', rfl, rfl, hpaths⟩
  forth importPath p hp := by
    cases hp
    exact ⟨_, rfl, rfl, rfl, hfiles⟩
  back importPath p hp := by
    cases hp
    exact ⟨_, rfl, rfl, rfl, fun v => (hfiles v).symm⟩

theorem run_filedLibrary : ∃ s,
    (run (.of (filedLibrary ["fmt", "os"] [.text "a.go", .text "b.go"])
      fun path => .ok [path.toText]) .verbatim ["x", "y"]).result = .ok s ∧
    (run (.of (filedLibrary ["os", "internal/abi", "fmt", "os"]
      [.text "b.go", .text "a.go", .text "b.go"]) fun path => .ok [path.toText]) .verbatim
      ["y", "x", "y"]).result = .ok s := by
  have listed : publicPaths ["fmt", "os"] = (["fmt", "os"] : List Text) := by decide +kernel
  have listed' : publicPaths ["os", "internal/abi", "fmt", "os"] =
      (["os", "fmt", "os"] : List Text) := by
    decide +kernel
  have same : (filedLibrary ["fmt", "os"] [.text "a.go", .text "b.go"]).Matches
      (filedLibrary ["os", "internal/abi", "fmt", "os"]
        [.text "b.go", .text "a.go", .text "b.go"]) := by
    refine matches_filedLibrary (fun importPath => ?_) fun v => ?_
    · rw [listed, listed']
      simp only [List.mem_cons, List.not_mem_nil, or_false]
      tauto
    · simp only [List.mem_cons, List.not_mem_nil, or_false]
      tauto
  have further : ∀ t : Text, t ∈ (["x", "y"] : List Text) ↔ t ∈ (["y", "x", "y"] : List Text) := by
    intro t
    simp only [List.mem_cons, List.not_mem_nil, or_false]
    tauto
  have named : (filedLibrary ["fmt", "os"] [.text "a.go", .text "b.go"]).IsNamed := by
    intro importPath p hp
    cases hp
    exact ⟨"fmt", rfl⟩
  have readable : (filedLibrary ["fmt", "os"] [.text "a.go", .text "b.go"]).IsReadable
      fun path => .ok [path.toText] := by
    refine ⟨_, rfl, fun importPath _ => ⟨_, rfl, fun v hv => ?_⟩⟩
    simp only [List.mem_cons, List.not_mem_nil, or_false] at hv
    rcases hv with rfl | rfl <;> exact ⟨_, _, rfl, rfl⟩
  obtain ⟨returns, agree⟩ := run_of_matching _ _ (fun path => .ok [path.toText]) .verbatim
    ["x", "y"] ["y", "x", "y"] same further
  obtain ⟨s, hs⟩ := (run_of_ok_iff named).2 readable
  obtain ⟨s', hs'⟩ := returns.1 ⟨s, hs⟩
  obtain ⟨-, -, -, unique⟩ := agree s s' hs hs'
  obtain ⟨rfl, -⟩ := unique named
  exact ⟨s, hs, hs'⟩

end Scan

end GoLexicon
