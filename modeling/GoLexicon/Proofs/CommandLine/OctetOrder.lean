import GoLexicon.Proofs.CommandLine.VerbatimList
import GoLexicon.Proofs.Text.OctetOrder
/-!
# Word lists as octets

The words of a list are in the order of their octets, since this is the order of texts
(`Text.octets_lt_iff`). The file that a list is written to can therefore be sorted, merged and
searched by tools that know nothing but octets: cut at each line feed it gives the octets of the
words, and these ascend (`CommandLine.word_list_ascends_by_octets`).

The lines are compared without their ends. A line feed is not the least octet, so that with their
ends a word would come behind its own continuation by a tab.
-/

namespace GoLexicon

/-! ## Cutting octets at line feeds -/

/-- The octet that ends a line. -/
def lineFeed : UInt8 := 0x0A

namespace Text

variable {w : Text} {ws : List Text}

theorem lineFeed_mem_octets_iff : lineFeed ∈ w.octets ↔ CodePoint.ofChar '\n' ∈ w :=
  mem_octets_iff_of_ascii (c := CodePoint.ofChar '\n') (by decide)

/-- The octets of a list are those of its words, with a line feed behind each. -/
theorem octets_render (ws : List Text) :
    (render ws).octets = (ws.map octets).flatMap (· ++ [lineFeed]) := by
  have ending : octets (ofString "\n") = [lineFeed] := by decide +kernel
  induction ws with
  | nil => rfl
  | cons w ws ih =>
    have first : render (w :: ws) = w ++ "\n" ++ render ws := List.flatMap_cons
    rw [first, octets_append, octets_append, ending, ih, List.map_cons, List.flatMap_cons]

/-- Octets are cut where the text of them is cut. -/
theorem splitOn_octets_render (h : ∀ w ∈ ws, w.IsLine) :
    (render ws).octets.splitOn lineFeed = ws.map octets ++ [[]] := by
  rw [octets_render, ← List.append_nil (List.flatMap _ _), ← Json.intercalate_concat]
  apply List.splitOn_intercalate
  · intro line hline
    rcases List.mem_append.1 hline with hline | hline
    · obtain ⟨w, hw, rfl⟩ := List.mem_map.1 hline
      rw [lineFeed_mem_octets_iff]
      exact h w hw
    · simp [List.mem_singleton.1 hline]
  · simp

theorem isScalar_render_of_mem (h : ∀ w ∈ ws, w.IsScalar) : (render ws).IsScalar := by
  intro c hc
  obtain ⟨w, hw, hc⟩ := List.mem_flatMap.1 hc
  rcases List.mem_append.1 hc with hc | hc
  · exact h w hw c hc
  · exact isScalar_ofString "\n" c hc

end Text

/-! ## Word lists -/

namespace WordSet

variable {s : WordSet}

theorem ascending_octets (s : WordSet) : (s.words.map Text.octets).Pairwise (· < ·) := by
  rw [List.pairwise_map]
  exact s.ascending.imp Text.octets_lt_octets

end WordSet

namespace CommandLine

variable {s : WordSet}

/-- The file that a list is written to, cut at its line feeds. -/
theorem lines_of_write (others : s.others = []) (scalar : ∀ w ∈ s, w.IsScalar)
    (lines : ∀ w ∈ s, w.IsLine) {m : Machine} {path : Path} (proper : m.files.here.IsProper)
    (h : (write m path s).result = .ok ()) :
    m.files.IsRewritten (write m path s).files path (render s.words).octets ∧
      (render s.words).octets.splitOn lineFeed = s.words.map Text.octets ++ [[]] := by
  have hreport := WordSet.report_of_others others
  have hscalar := Text.isScalar_render_of_mem scalar
  exact ⟨write_of_report hreport hscalar proper h, Text.splitOn_octets_render lines⟩

/-- **Word lists ascend by octets**: of two texts that can be encoded, one comes before the other
one exactly if its octets do. So the members of a set in order are its members sorted by their
octets, and the file that they are written to has the octets of one word on each line, in ascending
order, if no word has a line end in it. -/
theorem word_list_ascends_by_octets :
    (∀ u v : Text, u.IsScalar → v.IsScalar →
      ∃ x y : Bytes, u.encode = .ok x ∧ v.encode = .ok y ∧ (u < v ↔ x < y)) ∧
    ∀ s : WordSet, s.others = [] → (∀ w ∈ s, w.IsScalar) →
      (∀ ws : List Text, ws.Nodup → (∀ w, w ∈ ws ↔ w ∈ s) → s.sorted =
        .ok ((ws.mergeSort fun u v => !decide (v.octets < u.octets)).map .text)) ∧
      ((∀ w ∈ s, w.IsLine) → ∀ m path, m.files.here.IsProper → (write m path s).result = .ok () →
        ∃ (content : Bytes) (lines : List Bytes),
          m.files.IsRewritten (write m path s).files path content ∧
          content.splitOn lineFeed = lines ++ [[]] ∧ lines.Pairwise (· < ·) ∧
          ∀ x, x ∈ lines ↔ ∃ w ∈ s, w.encode = .ok x) := by
  refine ⟨fun u v hu hv => ?_, fun s others scalar => ⟨fun ws nodup hws => ?_,
    fun lines m path proper hwrite => ?_⟩⟩
  · refine ⟨u.octets, v.octets, ?_, ?_, Text.octets_lt_iff.symm⟩
    · exact Text.encode_eq_ok_iff.2 ⟨hu, rfl⟩
    · exact Text.encode_eq_ok_iff.2 ⟨hv, rfl⟩
  · rw [WordSet.sorted_of_others others, WordSet.words_eq_mergeSort nodup hws]
  · obtain ⟨rewritten, hsplit⟩ := lines_of_write others scalar lines proper hwrite
    refine ⟨_, _, rewritten, hsplit, s.ascending_octets, fun x => ?_⟩
    rw [List.mem_map]
    apply exists_congr
    intro w
    rw [Text.encode_eq_ok_iff, ← and_assoc]
    exact and_congr_left fun _ => (and_iff_left_of_imp (scalar w)).symm

/-- Words with one to four octets for a letter; the last one would come before the third one if
texts were compared by units of 16 bits. -/
def mixedWords : List Text := ["zebra", "été", "\uffee", "z", "😀"].map Text.ofString

theorem word_list_ascends_by_octets_mixed :
    (∃ x y : Bytes, Text.encode "\uffee" = .ok x ∧ Text.encode "😀" = .ok y ∧ x < y) ∧
    (WordSet.ofList mixedWords).sorted =
      .ok ((mixedWords.mergeSort fun u v => !decide (v.octets < u.octets)).map .text) ∧
    ∃ (content : Bytes) (lines : List Bytes),
      Replacement.crowded.IsRewritten
        (write crowdedMachine (Path.parse "out") (.ofList mixedWords)).files (Path.parse "out")
        content ∧
      content.splitOn lineFeed = lines ++ [[]] ∧ lines.Pairwise (· < ·) := by
  have filled : ∀ w ∈ mixedWords, w ≠ [] := by decide +kernel
  have scalar : ∀ w ∈ mixedWords, w.IsScalar :=
    List.forall_mem_map.2 fun _ _ => Text.isScalar_ofString _
  have lines : ∀ w ∈ mixedWords, w.IsLine := by decide +kernel
  have mem : ∀ w, w ∈ mixedWords ↔ w ∈ WordSet.ofList mixedWords :=
    fun w => (WordSet.mem_ofList.trans (and_iff_left_of_imp (filled w))).symm
  have others : (WordSet.ofList mixedWords).others = [] := WordSet.others_ofList mixedWords
  have scalar' : ∀ w ∈ WordSet.ofList mixedWords, w.IsScalar := fun w hw => scalar w ((mem w).2 hw)
  have written :
      (write crowdedMachine (Path.parse "out") (.ofList mixedWords)).result = .ok () := by
    refine (write_ok_iff (WordSet.report_of_others others)
      (Text.isScalar_render_of_mem scalar')).2 ⟨by decide +kernel, fun _ => rfl, _, _, _, rfl, rfl⟩
  obtain ⟨byCodePoint, bySet⟩ := word_list_ascends_by_octets
  obtain ⟨x, y, hx, hy, hxy⟩ := byCodePoint "\uffee" "😀" (Text.isScalar_ofString _)
    (Text.isScalar_ofString _)
  obtain ⟨sorts, rewrites⟩ := bySet (.ofList mixedWords) others scalar'
  obtain ⟨content, ls, rewritten, hsplit, ascending, -⟩ := rewrites
    (fun w hw => lines w ((mem w).2 hw)) crowdedMachine (Path.parse "out")
    Replacement.isProper_crowded written
  exact ⟨⟨x, y, hx, hy, hxy.1 (by decide +kernel)⟩, sorts mixedWords (by decide +kernel) mem,
    content, ls, rewritten, hsplit, ascending⟩

end CommandLine

end GoLexicon
