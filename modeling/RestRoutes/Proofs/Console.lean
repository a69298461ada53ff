import RestRoutes.Console
import RestRoutes.Proofs.Json.ReadBack
import RestRoutes.Proofs.Text.Split

/-! What can be read back from a listing.  Its JSON text always gives back its rows.  Its lines do so
just where no cell has one of the characters that part cells and lines. -/

namespace RestRoutes.Table

/-! ### Lines -/

/-- A cell with neither a tab nor a line feed in it. -/
def OneCell (cell : String) : Prop := '\t' ∉ cell.toList ∧ '\n' ∉ cell.toList

instance (cell : String) : Decidable (OneCell cell) := inferInstanceAs (Decidable (_ ∧ _))

/-- The rows on the lines of a text: what stands before each line feed, cut at its tabs. -/
def readPlain (text : String) : List (List String) :=
  (Text.splitAll (· == '\n') text.toList).dropLast.map fun line =>
    (Text.splitAll (· == '\t') line).map String.ofList

def line (row : List String) : List Char := List.intercalate ['\t'] (row.map String.toList)

theorem plain_toList (t : Table) :
    t.plain.toList = ((t.headers :: t.rows).map line).flatMap (· ++ ['\n']) := by
  have hRow : ∀ row, (plainRow row).toList = line row ++ ['\n'] := by
    intro row
    rw [plainRow, String.toList_append, String.toList_intercalate]
    rfl
  rw [plain, String.toList_join, List.flatMap_map, List.flatMap_map]
  exact List.flatMap_congr fun row _ => hRow row

theorem ne_of_notMem {c : Char} {cs : List Char} (h : c ∉ cs) : ∀ d ∈ cs, (d == c) = false := by
  intro d hd
  refine beq_eq_false_iff_ne.mpr ?_
  rintro rfl
  exact h hd

theorem newline_notMem_line {row : List String} (h : ∀ cell ∈ row, OneCell cell) :
    '\n' ∉ line row := by
  intro hMem
  obtain hTab | ⟨_, hCell, hNewline⟩ := Text.mem_intercalate hMem
  · exact absurd hTab (by decide)
  · obtain ⟨cell, hRow, rfl⟩ := List.mem_map.mp hCell
    exact (h cell hRow).2 hNewline

theorem cells_line {row : List String} (hSome : row ≠ []) (h : ∀ cell ∈ row, OneCell cell) :
    (Text.splitAll (· == '\t') (line row)).map String.ofList = row := by
  have hCells : ∀ cell ∈ row.map String.toList, ∀ c ∈ cell, (c == '\t') = false :=
    List.forall_mem_map.mpr fun cell hCell => ne_of_notMem (h cell hCell).1
  rw [line, Text.splitAll_intercalate (by simpa using hSome) hCells rfl, List.map_map]
  exact (List.map_congr_left fun _ _ => String.ofList_toList).trans (List.map_id row)

theorem oneCell_of_mem_readPlain {text : String} {row : List String} (h : row ∈ readPlain text) :
    row ≠ [] ∧ ∀ cell ∈ row, OneCell cell := by
  obtain ⟨line, hLine, rfl⟩ := List.mem_map.mp h
  have hLine := Text.not_of_mem_splitAll (List.dropLast_subset _ hLine)
  refine ⟨by simpa using Text.splitAll_ne_nil _ line, List.forall_mem_map.mpr fun cell hCell => ?_⟩
  rw [OneCell, String.toList_ofList]
  refine ⟨fun hTab => ?_, fun hNewline => ?_⟩
  · have hSplit := Text.not_of_mem_splitAll hCell '\t' hTab
    exact absurd hSplit (by decide)
  · have hWhole := hLine '\n' (Text.mem_of_mem_splitAll hCell hNewline)
    exact absurd hWhole (by decide)

/-- The lines of a listing give back its headers and its rows exactly if each cell stays one. -/
theorem readPlain_plain_iff {t : Table} :
    readPlain t.plain = t.headers :: t.rows ↔
      ∀ row ∈ t.headers :: t.rows, row ≠ [] ∧ ∀ cell ∈ row, OneCell cell := by
  constructor
  · intro h row hRow
    rw [← h] at hRow
    exact oneCell_of_mem_readPlain hRow
  · intro h
    have hLines : ∀ cs ∈ (t.headers :: t.rows).map line, ∀ c ∈ cs, (c == '\n') = false :=
      List.forall_mem_map.mpr fun row hRow => ne_of_notMem (newline_notMem_line (h row hRow).2)
    rw [readPlain, plain_toList, Text.splitAll_ended hLines rfl, List.dropLast_concat, List.map_map]
    exact (List.map_congr_left fun row hRow => cells_line (h row hRow).1 (h row hRow).2).trans
      (List.map_id _)

/-! ### JSON -/

theorem record_eq {headers row : List String} (hDistinct : headers.Nodup)
    (hLength : headers.length ≤ row.length) :
    record headers row = .ofNamed (headers.zip (row.map .str)) := by
  have hNames : ((headers.zip row).map Prod.fst).Nodup := by rwa [List.map_fst_zip hLength]
  rw [record, Assoc.ofNamed_of_nodup hNames, List.zip_map_right]
  rfl

/-- The JSON text of a listing gives back its rows, as objects with the headers as names. -/
theorem read_json {t : Table} (hDistinct : t.headers.Nodup)
    (hLength : ∀ row ∈ t.rows, t.headers.length ≤ row.length) :
    Json.read t.json = .ok (.list (t.rows.map fun row => .ofNamed (t.headers.zip (row.map .str)))) := by
  have hRecords : t.rows.map (record t.headers) =
      t.rows.map fun row => .ofNamed (t.headers.zip (row.map .str)) :=
    List.map_congr_left fun row hRow => record_eq hDistinct (hLength row hRow)
  have hKept : Json.Faithful (.list (t.rows.map (record t.headers))) := by
    rw [hRecords]
    refine .list (List.forall_mem_map.mpr fun row hRow => .named ?_ fun e he => ?_)
    · rwa [List.map_fst_zip (by simpa using hLength row hRow)]
    · obtain ⟨cell, -, hCell⟩ := List.mem_map.mp (List.of_mem_zip he).2
      rw [← hCell]
      exact .str cell
  rw [json, ← hRecords]
  exact Json.read_render Json.indented_spaced hKept (by simp [Json.Blank, Json.isSpace])

end RestRoutes.Table
