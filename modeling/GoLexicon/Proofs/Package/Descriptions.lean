import GoLexicon.Package.Static
import GoLexicon.Package.Transcript
import GoLexicon.Proofs.FileSystem.Locations
import GoLexicon.Proofs.Json.Documents
import GoLexicon.Proofs.Package.Listing
/-!
# Packages that are described

A package can be described in texts alone (`Description`). A catalog supplies some described packages
if it lists their import paths in order and resolves each to its package (`Catalog.Supplies`). The
catalog in memory does (`StaticCatalog.supplies`), and so does a toolchain that prints the import paths
line by line and a document for each package (`Toolchain.Describes.supplies`), in which the members may
have any order and the strings may be written in any way. A transcript of such output does as well as
the toolchain (`Transcript.describes`).
-/

namespace GoLexicon

/-- What there is to know of a package, in texts that a toolchain can print. -/
structure Description where
  importPath : Text
  name : Text
  directory : Path
  files : List Text
  isEntry : importPath.IsEntry
  importPath_passable : (0 : CodePoint) ∉ importPath
  importPath_scalar : importPath.IsScalar
  name_ne_nil : name ≠ []
  name_scalar : name.IsScalar
  directory_scalar : directory.toText.IsScalar
  files_scalar : ∀ file ∈ files, Text.IsScalar file

namespace Description

/-- The package that is described. -/
def toPackage (d : Description) : Package :=
  ⟨.text d.importPath, d.directory, d.files.map .text, .text d.name⟩

/-- What a toolchain says of the package. Where there are no files it says nothing of them. -/
def members (d : Description) : List (Text × Json) :=
  [(Text.ofString "ImportPath", Json.text d.importPath), (Text.ofString "Name", Json.text d.name),
    (Text.ofString "Dir", Json.text d.directory.toText)]
  ++ if d.files.isEmpty then [] else [(Text.ofString "GoFiles", Json.list (d.files.map .text))]

variable {d : Description} {ms : List (Text × Json)}

theorem nodup_members (d : Description) : (d.members.map (·.1)).Nodup := by
  have four : [Text.ofString "ImportPath", Text.ofString "Name", Text.ofString "Dir",
      Text.ofString "GoFiles"].Nodup := by decide
  unfold members
  split
  · exact four.sublist (List.sublist_append_left _ [Text.ofString "GoFiles"])
  · exact four

/-- In whatever order the members come, each is found under its name. -/
theorem member?_eq_some (h : ms.Perm d.members) {name : Text} {v : Json}
    (hmem : (name, v) ∈ d.members) : Json.member? ms name = some v := by
  rw [Json.member?, List.lookup_eq_of_perm d.nodup_members h.symm,
    List.lookup_eq_some_iff_mem d.nodup_members]
  exact hmem

theorem member?_files_of_nil (h : ms.Perm d.members) (hfiles : d.files = []) :
    Json.member? ms "GoFiles" = none := by
  have others : Text.ofString "GoFiles" ∉
      [Text.ofString "ImportPath", Text.ofString "Name", Text.ofString "Dir"] := by decide
  have hmembers : d.members.map (·.1) =
      [Text.ofString "ImportPath", Text.ofString "Name", Text.ofString "Dir"] := by
    simp [members, hfiles]
  rw [Json.member?, List.lookup_eq_of_perm d.nodup_members h.symm, List.lookup_eq_none_iff]
  intro p hp
  rw [← hmembers] at others
  exact bne_iff_ne.2 fun heq => others (heq ▸ List.mem_map_of_mem hp)

theorem filled?_text {t : Text} (h : t ≠ []) :
    Package.filled? (some (.text t)) = some (.text t) := by
  simp [Package.filled?, Json.isFilled, h]

theorem filled?_list {vs : List Json} (h : vs ≠ []) :
    Package.filled? (some (.list vs)) = some (.list vs) := by
  simp [Package.filled?, Json.isFilled, h]

/-- The package is made from what is said of it. -/
theorem ofInfo_members (h : ms.Perm d.members) :
    Package.ofInfo d.importPath ms = .ok d.toPackage := by
  have path : Json.member? ms "ImportPath" = some (.text d.importPath) :=
    member?_eq_some h (by simp [members])
  have name : Json.member? ms "Name" = some (.text d.name) :=
    member?_eq_some h (by simp [members])
  have directory : Json.member? ms "Dir" = some (.text d.directory.toText) :=
    member?_eq_some h (by simp [members])
  rw [Package.ofInfo, directory, name, path, filled?_text d.directory.toText_ne_nil,
    filled?_text d.name_ne_nil, filled?_text d.isEntry.ne_nil]
  simp only [Package.directoryOf, Path.parse_toText]
  by_cases hfiles : d.files = []
  · have package : d.toPackage = ⟨.text d.importPath, d.directory, [], .text d.name⟩ := by
      rw [toPackage, hfiles, List.map_nil]
    rw [member?_files_of_nil h hfiles, package]
    rfl
  · have files : Json.member? ms "GoFiles" = some (.list (d.files.map .text)) :=
      member?_eq_some h (by simp [members, hfiles])
    rw [files, filled?_list (by simpa using hfiles)]
    rfl

/-- The object of the members can be read. -/
theorem isPlain_members (h : ms.Perm d.members) : Json.IsPlain 2 (.object ms) := by
  have files : Json.IsPlain 1 (.list (d.files.map .text)) := by
    refine .list fun v hv => ?_
    obtain ⟨file, hfile, rfl⟩ := List.mem_map.1 hv
    exact .text (d.files_scalar file hfile)
  have all : ∀ m ∈ d.members, m.1.IsScalar ∧ Json.IsPlain 1 m.2 := by
    unfold members
    simp only [List.forall_mem_append, List.forall_mem_cons]
    refine ⟨⟨⟨Text.isScalar_ofString _, .text d.importPath_scalar⟩,
      ⟨Text.isScalar_ofString _, .text d.name_scalar⟩,
      ⟨Text.isScalar_ofString _, .text d.directory_scalar⟩, nofun⟩, ?_⟩
    split
    · nofun
    · exact List.forall_mem_singleton.2 ⟨Text.isScalar_ofString _, files⟩
  exact .object ((h.map _).nodup_iff.2 d.nodup_members) (fun m hm => (all m (h.mem_iff.1 hm)).1)
    fun m hm => (all m (h.mem_iff.1 hm)).2

end Description

/-- A catalog lists the import paths of some described packages, in order, and resolves each to its
package. -/
structure Catalog.Supplies (c : Catalog) (ds : List Description) : Prop where
  list : c.list = .ok (ds.map (·.importPath))
  resolve : ∀ d ∈ ds, c.resolve d.importPath = .ok d.toPackage

variable {ds : List Description}

/-! ## In memory -/

namespace StaticCatalog

theorem insert_of_not_mem {path : Text} {packages : List (Text × Package)}
    (h : path ∉ packages.map (·.1)) (p : Package) :
    insert path p packages = packages ++ [(path, p)] := by
  induction packages with
  | nil => rfl
  | cons q packages ih =>
    rw [List.map_cons] at h
    rw [insert, if_neg (List.ne_of_not_mem_cons h).symm, ih (List.not_mem_of_not_mem_cons h),
      List.cons_append]

theorem packages_ofPackages (distinct : (ds.map (·.importPath)).Nodup) :
    (ofPackages (ds.map (·.toPackage))).packages = ds.map fun d => (d.importPath, d.toPackage) := by
  have keys : ((ds.map fun d => (d.importPath, d.toPackage)).map (·.1)).Nodup := by
    rw [List.map_map]
    exact distinct
  have pairs : (ds.map (·.toPackage)).map (fun p => (p.importPath.plain, p)) =
      ds.map fun d => (d.importPath, d.toPackage) := by
    rw [List.map_map]
    rfl
  rw [ofPackages, pairs, ofPairs]
  exact List.foldl_eq_append (fun p _ new => insert_of_not_mem new p.2) keys

/-- The catalog of described packages supplies them. -/
theorem supplies (distinct : (ds.map (·.importPath)).Nodup) :
    (ofPackages (ds.map (·.toPackage))).toCatalog.Supplies ds := by
  have packages := packages_ofPackages distinct
  constructor
  · change Except.ok (paths _) = _
    rw [paths, packages, List.map_map]
    rfl
  · intro d hd
    change resolve _ _ = _
    rw [resolve, packages, List.lookup_map_of_mem distinct (·.toPackage) hd]

end StaticCatalog

/-! ## From a toolchain -/

/-- A program ends with success and prints a text. What it says besides is text as well. -/
def ProgramRun.Prints (r : ProgramRun) (t : Text) : Prop :=
  ∃ output errors said, r = .ended output errors none ∧ Text.decode output = .ok t ∧
    Text.decode errors = .ok said

namespace Toolchain

variable {t : Toolchain}

/-- A toolchain prints the import paths of some packages line by line, and for each package a
document of what there is to know of it. -/
structure Describes (t : Toolchain) (ds : List Description) : Prop where
  runnable : FileSystem.textFault? t.binary = none
  lists : ∃ listing, Text.IsListing (ds.map (·.importPath)) listing ∧
    (t.program t.binary ["list", "std"]).Prints listing
  tells : ∀ d ∈ ds, ∃ members document, members.Perm d.members ∧
    Json.IsDocumentOf document (.object members) ∧
    (t.program t.binary ["list", "-json", d.importPath]).Prints document

theorem run_of_prints {words : List Text} {text : Text}
    (passable : ∀ word ∈ t.binary :: words, FileSystem.textFault? word = none)
    (h : (t.program t.binary words).Prints text) (importPath : Option Text) :
    t.run words importPath = .ok text.unifyNewlines := by
  obtain ⟨output, errors, said, hrun, houtput, herrors⟩ := h
  rw [run, List.findSome?_eq_none_iff.2 passable]
  simp only [hrun, printed, houtput, herrors]
  rfl

/-- What is listed is read from the lines of the text that is printed, however their ends are
written. -/
theorem listStandard_of_prints {text : Text} (runnable : FileSystem.textFault? t.binary = none)
    (prints : (t.program t.binary ["list", "std"]).Prints text) :
    t.listStandard = .ok (listed text) := by
  have passable : ∀ word ∈ [t.binary, Text.ofString "list", Text.ofString "std"],
      FileSystem.textFault? word = none := by
    refine List.forall_mem_cons.2 ⟨runnable, ?_⟩
    decide
  rw [listStandard, run_of_prints passable prints none, ← listed_unifyNewlines text]
  rfl

theorem Describes.listStandard_eq (h : t.Describes ds) :
    t.listStandard = .ok (ds.map (·.importPath)) := by
  obtain ⟨listing, hlisting, hprints⟩ := h.lists
  rw [listStandard_of_prints h.runnable hprints, listed_of_isListing hlisting]

theorem Describes.packageInfo_eq (h : t.Describes ds) {d : Description} (hd : d ∈ ds) :
    ∃ members, members.Perm d.members ∧ t.packageInfo d.importPath = .ok members := by
  obtain ⟨members, document, hmembers, hdocument, hprints⟩ := h.tells d hd
  have importPath : FileSystem.textFault? d.importPath = none :=
    FileSystem.textFault?_eq_none_iff.2 fun c hc =>
      ⟨fun h0 => d.importPath_passable (Fin.ext (b := (0 : CodePoint)) h0 ▸ hc),
        fun hs => absurd (d.importPath_scalar c hc) (by simp [hs])⟩
  have passable : ∀ word ∈ [t.binary, Text.ofString "list", Text.ofString "-json", d.importPath],
      FileSystem.textFault? word = none := by
    have fixed : ∀ word ∈ [Text.ofString "list", Text.ofString "-json"],
        FileSystem.textFault? word = none := by decide
    simpa [h.runnable, importPath] using fixed
  have value : Json.read Json.nestingLimit document.unifyNewlines = .ok (.object members) :=
    Json.read_of_isDocumentOf (Description.isPlain_members hmembers) (by decide)
      hdocument.unifyNewlines
  refine ⟨members, hmembers,
    Except.bind_eq_ok_iff.2 ⟨_, run_of_prints passable hprints (some d.importPath), ?_⟩⟩
  simp only [value]
  rfl

/-- A toolchain that describes some packages supplies them. -/
theorem Describes.supplies (h : t.Describes ds) : t.toClient.toCatalog.Supplies ds := by
  refine ⟨h.listStandard_eq, fun d hd => ?_⟩
  obtain ⟨members, hmembers, hinfo⟩ := h.packageInfo_eq hd
  exact Except.bind_eq_ok_iff.2 ⟨members, hinfo, Description.ofInfo_members hmembers⟩

end Toolchain

/-! ## From a transcript -/

namespace Transcript

/-- Import paths with a line feed behind each are a listing. -/
theorem isListing_lines (ds : List Description) : Text.IsListing (ds.map (·.importPath))
    (ds.flatMap fun d => d.importPath ++ [CodePoint.ofChar '\n']) := by
  induction ds with
  | nil => exact .nil
  | cons d ds ih =>
    have line := Text.IsListing.line (c := '\n') d.isEntry (w := []) nofun (by decide) ih
    rw [List.append_nil] at line
    rw [List.flatMap_cons, List.append_assoc]
    exact line

/-- The transcript of documents on some packages describes them. -/
theorem describes {binary : Text} (runnable : FileSystem.textFault? binary = none)
    (distinct : (ds.map (·.importPath)).Nodup) {document : Description → Text}
    (written : ∀ d ∈ ds, Json.IsDocumentOf (document d) (.object d.members))
    (scalar : ∀ d ∈ ds, (document d).IsScalar) :
    (⟨binary, program ⟨ds.map fun d => (d.importPath, document d)⟩⟩ : Toolchain).Describes ds where
  runnable := runnable
  lists := by
    have feed : Text.ofString "\n" = [CodePoint.ofChar '\n'] := by decide
    have lines : Text.IsScalar (ds.flatMap fun d => d.importPath ++ [CodePoint.ofChar '\n']) := by
      intro c hc
      obtain ⟨d, -, hc⟩ := List.mem_flatMap.1 hc
      rcases List.mem_append.1 hc with hc | hc
      · exact d.importPath_scalar c hc
      · rw [List.mem_singleton.1 hc]
        exact CodePoint.isSurrogate_ofChar '\n'
    refine ⟨_, isListing_lines ds, _, [], [], ?_, Text.decode_eq_ok_iff.2 ⟨lines, rfl⟩, rfl⟩
    simp only [program, if_true, List.flatMap_map, feed]
  tells d hd := by
    have found := List.lookup_map_of_mem distinct document hd
    refine ⟨d.members, document d, .refl _, written d hd, _, [], [], ?_,
      Text.decode_eq_ok_iff.2 ⟨scalar d hd, rfl⟩, rfl⟩
    simp only [program, List.getLastD_cons, List.getLastD_nil, found]
    simp

end Transcript

end GoLexicon
