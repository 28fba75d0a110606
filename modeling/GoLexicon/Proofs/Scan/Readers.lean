import GoLexicon.Proofs.FileSystem.Tables
import GoLexicon.Proofs.Scan.SideBySide
import GoLexicon.Scan.Extraction
/-!
# Scans of files in memory

Two readers that agree on the files of a library lead to scans that agree: they give the same set,
or fail with failures that differ in nothing but what lies behind them (`Scan.agree_of_read`). So a
table of files can be put in the place of a file system that holds them
(`FileTable.stands_for_files`), whatever guide leads the scan.

Paths that cannot be handed to the system are left out. There a file system fails with a fault where
a table refuses to read (`FileTable.not_readAlike_unencodable`).
-/

namespace GoLexicon

/-- A guide that gives packages in some way, and the names of files as they are read and parsed. -/
def Guide.reading (list : List Event → Except Failure (List Text))
    (resolve : List Event → Text → Except Failure Package) (parse : Bytes → Syntax.Node)
    (read : FileReader) : Guide :=
  ⟨list, resolve, fun _ => Extractor.of read parse⟩

section scans

variable {list : List Event → Except Failure (List Text)}
  {resolve : List Event → Text → Except Failure Package} {parse : Bytes → Syntax.Node}
  {read read' : FileReader}

/-- Extractors agree on the files on which their readers do. -/
theorem Extractor.agree_of_read {path : Path}
    (h : Except.AgreeUpTo Failure.IsLike (read path) (read' path)) :
    Except.AgreeUpTo Failure.IsLike (Extractor.of read parse path)
      (Extractor.of read' parse path) :=
  h.bind fun _ _ => .refl _

/-- Scans agree whose readers agree on the files of the packages that are given. -/
theorem Scan.agree_of_read
    (h : ∀ before importPath p paths, resolve before importPath = .ok p →
      p.filePaths = .ok paths → ∀ path ∈ paths,
        Except.AgreeUpTo Failure.IsLike (read path) (read' path)) (mode : Mode)
    (further : List Text) :
    Except.AgreeUpTo Failure.IsLike
      (run (.reading list resolve parse read) mode further).result
      (run (.reading list resolve parse read') mode further).result := by
  have extract : ∀ path, (Guide.reading list resolve parse read).Holds path → ∀ _ : List Event,
      Except.AgreeUpTo Failure.IsLike (Extractor.of read parse path)
        (Extractor.of read' parse path) := by
    rintro path ⟨p, paths, ⟨before, importPath, hp⟩, hpaths, hpath⟩ _
    exact Extractor.agree_of_read (h before importPath p paths hp hpaths path hpath)
  have lockstep : Lockstep Eq Failure.IsLike (.reading list resolve parse read)
      (.reading list resolve parse read') mode mode :=
    .of_agree (fun _ => .refl _) (fun _ _ _ => .refl _) extract
  obtain ⟨r, _, rfl, hrun, hrun'⟩ | ⟨f, f', r, _, like, rfl, hrun, hrun'⟩ :=
    lockstep.run_upTo further further rfl
  · rw [hrun, hrun']
    exact .ok r.words
  · rw [hrun, hrun']
    exact .error like

end scans

/-- **A table of files stands for the file system** that holds them. Each request for a path within
the current directory, be it for octets or for text, gets the same answer from both, or is refused
by both with a diagnostic on the path, in the same words. Reading changes neither of them, so this
is so of all requests in a row.

A scan therefore gives the same set with both, or fails with a failure of the same kind, in the same
words and about the same, if the packages have such paths; the packages may be listed and given in
any way that depends on what happened before.

A path that cannot be handed to the system, as is no path of a file, is where they part: the table
refuses it, and the file system fails with the fault. -/
theorem FileTable.stands_for_files {fs : FileSystem} {files : List (Path × Bytes)}
    (storable : IsStorable files) (holds : fs.Holds files) :
    (∀ q : FileRequest, q.path.IsRequest →
      ReadAlike q.path (q.answer fs.read) (q.answer (FileTable.read ⟨files, none⟩))) ∧
    (∀ list resolve, (∀ before importPath p paths, resolve before importPath = .ok p →
        p.filePaths = .ok paths → ∀ path ∈ paths, path.IsRequest) →
      ∀ parse mode further, Except.AgreeUpTo Failure.IsLike
        (Scan.run (.reading list resolve parse fs.read) mode further).result
        (Scan.run (.reading list resolve parse (FileTable.read ⟨files, none⟩)) mode
          further).result) ∧
    ∀ p fault, FileSystem.textFault? p.toText = some fault →
      fs.read p = .error (.fault fault) ∧
      ∃ o, FileTable.read ⟨files, none⟩ p = .error (unreadable p o) := by
  refine ⟨fun q hq => q.answer_alike (holds.read_alike storable hq), ?_, ?_⟩
  · intro list resolve requests parse mode further
    refine Scan.agree_of_read (fun before importPath p paths hp hpaths path hpath => ?_) mode
      further
    have request := requests before importPath p paths hp hpaths path hpath
    exact (holds.read_alike storable request).agree
  · intro p fault hfault
    have absent : files.reverse.lookup p = none := by
      refine List.lookup_eq_none_iff_not_mem.2 fun hmem => ?_
      obtain ⟨x, hx, rfl⟩ := List.mem_map.1 hmem
      have passable := (storable.request x (List.mem_reverse.1 hx)).textFault?
      exact nomatch passable.symm.trans hfault
    exact ⟨FileSystem.read_of_textFault? hfault, _, by rw [FileTable.read, absent]⟩

/-- A file in a directory, and one beside it. -/
def twoFiles : List (Path × Bytes) :=
  [(Path.parse "a/x.go", [0x78]), (Path.parse "b.go", [])]

theorem isStorable_twoFiles : IsStorable twoFiles where
  request := by decide +kernel
  inside := by decide +kernel
  names := by decide +kernel
  path := by decide +kernel
  apart := by decide +kernel

/-- The package of the file in the directory. -/
def packageOfDirectory : Package := ⟨.text "a", Path.parse "a", [.text "x.go"], .text "a"⟩

theorem filePaths_packageOfDirectory :
    packageOfDirectory.filePaths = .ok [Path.parse "a/x.go"] := by decide +kernel

/-- Requests for one of the two files, a directory above it and a path below the other one. -/
def threeRequests : List FileRequest :=
  [.octets (Path.parse "a/x.go"), .text (Path.parse "a"), .octets (Path.parse "b.go/c")]

theorem FileTable.stands_for_twoFiles :
    let fs := FileSystem.ofFiles ["d"] (twoFiles.map fun x => (x.1.names, x.2))
    IsStorable twoFiles ∧ fs.Holds twoFiles ∧
    fs.read (Path.parse "a/x.go") = .ok [0x78] ∧
    (∀ q ∈ threeRequests, q.path.IsRequest ∧
      ReadAlike q.path (q.answer fs.read) (q.answer (FileTable.read ⟨twoFiles, none⟩))) ∧
    ∀ parse mode further, Except.AgreeUpTo Failure.IsLike
      (Scan.run (.reading (fun _ => .ok ["a"]) (fun _ _ => .ok packageOfDirectory) parse fs.read)
        mode further).result
      (Scan.run (.reading (fun _ => .ok ["a"]) (fun _ _ => .ok packageOfDirectory) parse
        (FileTable.read ⟨twoFiles, none⟩)) mode further).result := by
  intro fs
  have here : ∀ name ∈ ([Text.ofString "d"] : Location), FileSystem.CanStand name :=
    List.forall_mem_singleton.2 ⟨by decide, by decide⟩
  have holds : fs.Holds twoFiles := FileSystem.holds_ofFiles here isStorable_twoFiles
  obtain ⟨reads, scans, -⟩ := FileTable.stands_for_files isStorable_twoFiles holds
  have requests : ∀ q ∈ threeRequests, q.path.IsRequest := by decide +kernel
  refine ⟨isStorable_twoFiles, holds, by decide +kernel,
    fun q hq => ⟨requests q hq, reads q (requests q hq)⟩, ?_⟩
  refine scans _ _ fun _ _ p paths hp hpaths path hpath => ?_
  obtain rfl := Except.ok.inj hp
  obtain rfl := Except.ok.inj (filePaths_packageOfDirectory.symm.trans hpaths)
  rw [List.mem_singleton.1 hpath]
  exact requests (.octets _) List.mem_cons_self

/-- Where a path cannot be encoded, a table does not read as the file system that it stands for. -/
theorem FileTable.not_readAlike_unencodable :
    ¬ ∀ (fs : FileSystem) (files : List (Path × Bytes)), IsStorable files → fs.Holds files →
      ∀ p : Path, p.anchor = .here → Path.up ∉ p.names → (0 : CodePoint) ∉ p.toText →
        ReadAlike p (fs.read p) (FileTable.read ⟨files, none⟩ p) := by
  intro alike
  have storable : IsStorable [] := by
    constructor <;> exact List.forall_mem_nil _
  have holds : (FileSystem.ofFiles [] []).Holds [] :=
    FileSystem.holds_ofFiles (List.forall_mem_nil _) storable
  obtain ⟨content, h, -⟩ | ⟨o, o', h, -⟩ := alike _ _ storable holds
    ⟨.here, [[0xD800]], by decide⟩ rfl (by decide) (by decide)
  · cases h
  · cases h

end GoLexicon
