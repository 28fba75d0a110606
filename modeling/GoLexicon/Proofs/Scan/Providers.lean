import GoLexicon.Proofs.Package.Descriptions
import GoLexicon.Proofs.Scan.SideBySide
/-!
# One library from two catalogs

Two catalogs that supply the same described packages cannot be told apart: step by step an
enumeration gives the packages that are not internal, in their order, and then nothing
(`Catalog.Supplies.answers`), and two scans are the same, whatever extractor they have
(`Catalog.Supplies.run_eq`). So it makes no difference whether the packages are held in memory or
a toolchain is asked for them (`Toolchain.Describes.indistinguishable`).
-/

namespace GoLexicon

/-- The guide of a catalog and an extractor whose answers may depend on what happened before. -/
def Catalog.guide (c : Catalog) (extract : List Event → Path → Except Failure (List Text)) :
    Guide where
  list _ := c.list
  resolve _ := c.resolve
  extract := extract

/-- The described packages that are not internal. -/
def publicPackages (ds : List Description) : List Package :=
  (ds.filter (!isInternal ·.importPath)).map (·.toPackage)

namespace Enumeration

/-- What some steps of an enumeration give, in order. -/
def answers (guide : Guide) : Nat → Enumeration → Record → List (Except Failure (Option Package))
  | 0, _, _ => []
  | n + 1, e, r =>
    let ((answer, e), r) := next guide e r
    answer :: answers guide n e r

variable {guide : Guide} {r : Record}

theorem answers_succ {n : Nat} {e e' : Enumeration} {r' : Record}
    {answer : Except Failure (Option Package)} (h : next guide e r = ((answer, e'), r')) :
    answers guide (n + 1) e r = answer :: answers guide n e' r' := by
  rw [answers, h]

theorem answers_congr {n : Nat} {e e' : Enumeration} {r' : Record}
    (h : next guide e r = next guide e' r') : answers guide n e r = answers guide n e' r' := by
  cases n with
  | zero => rfl
  | succ n => rw [answers, answers, h]

/-- Behind its end an enumeration gives nothing. -/
theorem answers_done (n : Nat) (r : Record) :
    answers guide n .done r = List.replicate n (.ok none) := by
  induction n with
  | zero => rfl
  | succ n ih => rw [answers_succ (n := n) rfl, ih, List.replicate_succ]

end Enumeration

namespace Scan

/-- To pass over some import paths is to ask for nothing. -/
theorem exists_perform_skip (guide : Guide) (importPaths : List Text) (r : Record) :
    ∃ r', (skip importPaths).perform r = (.ok (), r') ∧
      guide.dialogue r'.events = guide.dialogue r.events := by
  have ends : Ends guide .strict (skip importPaths) _ := ends_skip importPaths
  obtain ⟨r', a, leads, ⟨⟨⟩, performed, rfl⟩ | ⟨-, -, ⟨⟩⟩⟩ := ends r
  refine ⟨r', performed, ?_⟩
  rw [leads.dialogue]
  exact List.append_nil _

/-- To visit a stop is to ask for one package. -/
theorem exists_perform_visit (guide : Guide) (s : Stop) (r : Record) :
    ∃ before r', (visit guide s).perform r = (guide.resolve before s.importPath, r') ∧
      guide.dialogue r'.events = guide.dialogue r.events ++
        [.resolving s.importPath (guide.resolve before s.importPath)] := by
  obtain ⟨r', skipped, silent⟩ := exists_perform_skip guide s.skipped r
  refine ⟨r'.events, _, (perform_bind_ok skipped).trans (perform_ask _ _ r'), ?_⟩
  rw [← silent]
  exact Guide.dialogue_cons_of_some rfl

/-- Two guides that answer all questions alike that are put to them lead to the same scan. -/
theorem run_eq_of_agree {guide guide' : Guide}
    (list : ∀ before, guide.list before = guide'.list before)
    (resolve : ∀ importPath, guide.Lists importPath →
      ∀ before, guide.resolve before importPath = guide'.resolve before importPath)
    (extract : ∀ before path, guide.extract before path = guide'.extract before path)
    (mode : Mode) (further : List Text) : run guide mode further = run guide' mode further := by
  have lockstep : Lockstep Eq Eq guide guide' mode mode :=
    .of_agree (fun before => .of_eq (list before))
      (fun importPath hlists before => .of_eq (resolve importPath hlists before))
      fun path _ before => .of_eq (extract before path)
  obtain ⟨r, _, rfl, hrun, hrun'⟩ | ⟨f, r, _, rfl, hrun, hrun'⟩ := lockstep.run further further rfl
  · rw [hrun, hrun']
  · rw [hrun, hrun']

end Scan

namespace Enumeration

variable {guide : Guide} {r : Record}

/-- Where the list is given, an enumeration is on its way. -/
theorem next_fresh {importPaths : List Text} (h : guide.list r.events = .ok importPaths) :
    next guide .fresh r = next guide (.underway (Itinerary.ofList importPaths))
      { r with events := .listed :: r.events } := by
  have asked := Scan.perform_ask .listed guide.list r
  rw [h] at asked
  have list : (Scan.list guide).perform r =
      (.ok (Itinerary.ofList importPaths), { r with events := .listed :: r.events }) :=
    Scan.perform_bind_ok asked
  rw [next, list]
  rfl

/-- Where the list is refused, an enumeration is at its end. -/
theorem next_fresh_of_error {f : Failure} (h : guide.list r.events = .error f) :
    next guide .fresh r = ((.error f, .done), { r with events := .listed :: r.events }) := by
  have asked := Scan.perform_ask .listed guide.list r
  rw [h] at asked
  have list : (Scan.list guide).perform r =
      (.error f, { r with events := .listed :: r.events }) := Scan.perform_bind_error asked
  rw [next, list]

variable (guide) in
/-- Behind the last stop an enumeration is at its end, and nothing is asked for. -/
theorem exists_next_end (rest : List Text) (r : Record) :
    ∃ r', next guide (.underway ⟨[], rest⟩) r = ((.ok none, .done), r') ∧
      guide.dialogue r'.events = guide.dialogue r.events := by
  obtain ⟨r', skipped, silent⟩ := Scan.exists_perform_skip guide rest r
  refine ⟨r', ?_, silent⟩
  rw [next, advance, skipped]

variable (guide) in
/-- At a stop an enumeration gives the package it asks for and goes on, or fails and is at its
end. -/
theorem exists_next_stop (s : Stop) (stops : List Stop) (rest : List Text) (r : Record) :
    ∃ before r', guide.dialogue r'.events = guide.dialogue r.events ++
        [.resolving s.importPath (guide.resolve before s.importPath)] ∧
      (∀ p, guide.resolve before s.importPath = .ok p →
        next guide (.underway ⟨s :: stops, rest⟩) r =
          ((.ok (some p), .underway ⟨stops, rest⟩), r')) ∧
      ∀ f, guide.resolve before s.importPath = .error f →
        next guide (.underway ⟨s :: stops, rest⟩) r = ((.error f, .done), r') := by
  obtain ⟨before, r', visited, asked⟩ := Scan.exists_perform_visit guide s r
  refine ⟨before, r', asked, fun p hp => ?_, fun f hf => ?_⟩
  · rw [hp] at visited
    simp only [next, advance, visited]
  · rw [hf] at visited
    simp only [next, advance, visited]

/-! What an enumeration gives where it is given all that it asks for. -/

variable {c : Catalog} {extract : List Event → Path → Except Failure (List Text)}
  {given : List Package}

/-- On its way an enumeration gives one package after the other. -/
theorem answers_underway {stops : List Stop} (rest : List Text)
    (resolve : List.Forall₂ (fun s p => c.resolve s.importPath = .ok p) stops given) (n : Nat)
    (r : Record) : answers (c.guide extract) n (.underway ⟨stops, rest⟩) r =
      (List.range n).map fun i => .ok given[i]? := by
  induction n generalizing stops given r with
  | zero => rfl
  | succ n ih =>
    rw [List.range_succ_eq_map, List.map_cons, List.map_map]
    cases resolve with
    | nil =>
      obtain ⟨r', last, -⟩ := exists_next_end (c.guide extract) rest r
      rw [answers_succ last, answers_done]
      exact congrArg _ (by simp [Function.comp_def])
    | @cons s p stops given hp hrest =>
      obtain ⟨_, r', -, next, -⟩ := exists_next_stop (c.guide extract) s stops rest r
      rw [answers_succ (next p hp), ih hrest]
      rfl

/-- Step by step an enumeration gives the packages of the import paths that are not internal, and
then nothing. -/
theorem answers_fresh {importPaths : List Text} (list : c.list = .ok importPaths)
    (resolve : List.Forall₂ (fun path p => c.resolve path = .ok p) (publicPaths importPaths) given)
    (n : Nat) (r : Record) : answers (c.guide extract) n .fresh r =
      (List.range n).map fun i => .ok given[i]? := by
  have listed : (c.guide extract).list r.events = .ok importPaths := list
  rw [← Scan.importPath_stops_ofList, List.forall₂_map_left_iff] at resolve
  rw [answers_congr (next_fresh listed)]
  exact answers_underway _ resolve n _

end Enumeration

namespace Catalog.Supplies

variable {c c' : Catalog} {ds : List Description}
  {extract : List Event → Path → Except Failure (List Text)}

/-- Step by step an enumeration gives the packages that are not internal, and then nothing. -/
theorem answers (h : c.Supplies ds) (n : Nat) (r : Record) :
    Enumeration.answers (c.guide extract) n .fresh r =
      (List.range n).map fun i => .ok (publicPackages ds)[i]? := by
  have paths : publicPaths (ds.map (·.importPath)) =
      (ds.filter (!isInternal ·.importPath)).map (·.importPath) := List.filter_map
  refine Enumeration.answers_fresh h.list ?_ n r
  rw [paths, publicPackages, List.forall₂_map_left_iff, List.forall₂_map_right_iff,
    List.forall₂_same]
  exact fun d hd => h.resolve d (List.mem_of_mem_filter hd)

/-- Two scans of catalogs that supply the same packages are the same. -/
theorem run_eq (h : c.Supplies ds) (h' : c'.Supplies ds) (mode : Mode) (further : List Text) :
    Scan.run (c.guide extract) mode further = Scan.run (c'.guide extract) mode further := by
  have list : ∀ before, (c.guide extract).list before = (c'.guide extract).list before :=
    fun _ => h.list.trans h'.list.symm
  refine Scan.run_eq_of_agree list ?_ (fun _ _ => rfl) mode further
  rintro importPath ⟨_, importPaths, hlist, hmem⟩ _
  obtain rfl : ds.map (·.importPath) = importPaths := Except.ok.inj (h.list.symm.trans hlist)
  obtain ⟨d, hd, rfl⟩ := List.mem_map.1 (List.mem_of_mem_filter hmem)
  exact (h.resolve d hd).trans (h'.resolve d hd).symm

end Catalog.Supplies

/-- **It makes no difference where packages come from**: the catalog of a toolchain that describes
some packages cannot be told from the catalog that holds them in memory. An enumeration gives the
same packages, in the order of the list, and every scan has the same outcome and the same trace. -/
theorem Toolchain.Describes.indistinguishable {t : Toolchain} {ds : List Description}
    (describes : t.Describes ds) (distinct : (ds.map (·.importPath)).Nodup)
    (extract : List Event → Path → Except Failure (List Text)) :
    let installed := t.toClient.toCatalog
    let static := (StaticCatalog.ofPackages (ds.map (·.toPackage))).toCatalog
    (∀ n r, Enumeration.answers (installed.guide extract) n .fresh r =
        (List.range n).map (fun i => .ok (publicPackages ds)[i]?) ∧
      Enumeration.answers (static.guide extract) n .fresh r =
        (List.range n).map fun i => .ok (publicPackages ds)[i]?) ∧
    ∀ mode further, Scan.run (installed.guide extract) mode further =
      Scan.run (static.guide extract) mode further := by
  intro installed static
  have hinstalled : installed.Supplies ds := describes.supplies
  have hstatic : static.Supplies ds := StaticCatalog.supplies distinct
  exact ⟨fun n r => ⟨hinstalled.answers n r, hstatic.answers n r⟩,
    fun mode further => hinstalled.run_eq hstatic mode further⟩

theorem zero_not_mem_fmt : (0 : CodePoint) ∉ Text.ofString "fmt" := by decide

theorem zero_not_mem_abi : (0 : CodePoint) ∉ Text.ofString "internal/abi" := by decide

/-- A package with two files. -/
def formatting : Description where
  importPath := "fmt"
  name := "fmt"
  directory := Path.parse "/usr/lib/go/src/fmt"
  files := ["doc.go", "print.go"]
  isEntry := by decide
  importPath_passable := zero_not_mem_fmt
  importPath_scalar := Text.isScalar_ofString _
  name_ne_nil := by decide
  name_scalar := Text.isScalar_ofString _
  directory_scalar := by
    have written : (Path.parse "/usr/lib/go/src/fmt").toText = "/usr/lib/go/src/fmt" := by
      decide
    exact written ▸ Text.isScalar_ofString _
  files_scalar := List.forall_mem_cons.2
    ⟨Text.isScalar_ofString _, List.forall_mem_singleton.2 (Text.isScalar_ofString _)⟩

/-- An internal package without files. -/
def binaryInterface : Description where
  importPath := "internal/abi"
  name := "abi"
  directory := Path.parse "/usr/lib/go/src/internal/abi"
  files := []
  isEntry := by decide
  importPath_passable := zero_not_mem_abi
  importPath_scalar := Text.isScalar_ofString _
  name_ne_nil := by decide
  name_scalar := Text.isScalar_ofString _
  directory_scalar := by
    have written : (Path.parse "/usr/lib/go/src/internal/abi").toText =
        "/usr/lib/go/src/internal/abi" := by
      decide
    exact written ▸ Text.isScalar_ofString _
  files_scalar := nofun

/-- The document on a package as the printer writes it. -/
def Description.document (d : Description) : Text := Json.written (.object d.members)

/-- A toolchain that prints the documents of the two packages. -/
def smallToolchain : Toolchain where
  binary := "go"
  program := Transcript.program
    ⟨[formatting, binaryInterface].map fun d => (d.importPath, d.document)⟩

theorem describes_smallToolchain : smallToolchain.Describes [formatting, binaryInterface] := by
  have checked : ∀ d ∈ [formatting, binaryInterface],
      d.document.all (!·.isSurrogate) = true := by decide
  exact Transcript.describes (by decide) (by decide)
    (fun d _ => Json.isDocumentOf_writtenWith _ (Description.isPlain_members (.refl _)))
    fun d hd c hc => by simpa using List.all_eq_true.1 (checked d hd) c hc

theorem Toolchain.indistinguishable_smallToolchain :
    smallToolchain.Describes [formatting, binaryInterface] ∧
    ([formatting, binaryInterface].map (·.importPath)).Nodup ∧
    (∀ n r, Enumeration.answers (smallToolchain.toClient.toCatalog.guide fun _ _ => .ok ["Println"])
      n .fresh r = (List.range n).map fun i => .ok [formatting.toPackage][i]?) ∧
    ∀ mode further,
      Scan.run (smallToolchain.toClient.toCatalog.guide fun _ _ => .ok ["Println"]) mode further =
        Scan.run ((StaticCatalog.ofPackages [formatting.toPackage,
          binaryInterface.toPackage]).toCatalog.guide fun _ _ => .ok ["Println"]) mode further := by
  have distinct : ([formatting, binaryInterface].map (·.importPath)).Nodup := by decide
  have packages : publicPackages [formatting, binaryInterface] = [formatting.toPackage] := by
    have internal : isInternal binaryInterface.importPath = true := by decide
    have other : isInternal formatting.importPath = false := by decide
    simp [publicPackages, internal, other]
  obtain ⟨enumerations, runs⟩ :=
    Toolchain.Describes.indistinguishable describes_smallToolchain distinct fun _ _ => .ok ["Println"]
  rw [packages] at enumerations
  exact ⟨describes_smallToolchain, distinct, fun n r => (enumerations n r).1, runs⟩

end GoLexicon
