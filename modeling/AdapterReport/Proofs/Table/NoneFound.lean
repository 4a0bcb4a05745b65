import AdapterReport.Proofs.Html.Notes
import AdapterReport.Proofs.Html.Spans
import AdapterReport.Proofs.Table.Alignment

/-!
# Tables without rows

`none_found_once`: a table without rows says so exactly once, on a page and in plain text, and a
table with rows never does. A cell may show the same words; in plain text, where nothing marks them,
they are counted beside what the cells show (`occurrences_table`), and the note has a place of its
own: the last line (`tableLines_noted`), or the end of the first line of heads
(`tableLines_beside`).
-/

namespace AdapterReport

/-- The texts of a grid. -/
def Grid.texts (g : Grid) : List (List Char) :=
  g.lines.flatMap fun line => line.map (·.text.toList)

namespace Plain

open Text (occurrences occurrencesIn Separates)

/-! ## How often the note stands in a line -/

/-- The note in plain text. -/
def note : List Char :=
  "none found".toList

theorem occurrences_pad (w : Nat) (s : String) :
    occurrences note (Text.pad w s).toList = occurrences note s.toList := by
  rw [Text.pad, String.toList_append, String.toList_ofList,
    Text.occurrences_append_replicate (by decide) (by decide)]

theorem occurrences_times (n : Nat) : occurrences note (Text.times n '=').toList = 0 := by
  rw [Text.times, String.toList_ofList, ← List.nil_append (List.replicate n '='),
    Text.occurrences_append_replicate (by decide) (by decide), occurrences]

/-- Cells beside each other have no note but their own. -/
theorem occurrences_paddedCells {cells : List GridCell} {widths : List Nat}
    (h : cells.length = widths.length) :
    occurrences note (paddedCells cells widths).toList =
      occurrencesIn note (cells.map (·.text.toList)) := by
  have hgutter : Separates gutter.toList note := by decide
  rw [toList_paddedCells, Text.occurrences_intercalate hgutter]
  induction cells generalizing widths with
  | nil => rfl
  | cons c cells ih =>
    cases widths with
    | nil => cases h
    | cons w widths =>
      rw [blocks, List.zip_cons_cons, List.map_cons, ← blocks, occurrencesIn, occurrences_pad,
        ih (Nat.succ.inj h), List.map_cons, occurrencesIn]

/-- A line of a vertical table with values. -/
theorem occurrences_values {widths : List Nat} {marked : Bool} {head : GridCell}
    {values : List GridCell} (hvalues : values ≠ []) (h : (head :: values).length = widths.length) :
    occurrences note (verticalLine widths marked (head :: values)).toList =
      occurrencesIn note ((head :: values).map (·.text.toList)) := by
  have hbar : Separates " | ".toList note := by decide
  have htail : values.length = widths.tail.length := by
    rw [List.length_tail, ← h]
    rfl
  rw [verticalLine_of_values hvalues, String.toList_append, String.toList_append, List.append_assoc,
    Text.occurrences_separated hbar, occurrences_pad, occurrences_paddedCells htail]
  rfl

/-- A line of a vertical table without values ends in the bar, or in the note behind it. -/
theorem verticalLine_of_no_values (widths : List Nat) (marked : Bool) (head : GridCell) :
    verticalLine widths marked [head] = Text.pad (widths.headD 0) head.text ++
      if marked then " |   none found" else " |" := by
  have hnote : " |" ++ (" " ++ gutter ++ noneFound) = " |   none found" := by decide
  cases marked with
  | false => simp [verticalLine]
  | true => rw [verticalLine, String.append_assoc, ← hnote]; rfl

theorem occurrences_no_values (widths : List Nat) (marked : Bool) (head : GridCell) :
    occurrences note (verticalLine widths marked [head]).toList =
      occurrences note head.text.toList + if marked then 1 else 0 := by
  have hbehind : Separates " |   ".toList note := by decide
  have hbar : Separates " |".toList note := by decide
  have hnote : " |   none found".toList = " |   ".toList ++ note := by decide
  have hone : occurrences note note = 1 := by decide
  rw [verticalLine_of_no_values, String.toList_append]
  cases marked with
  | false =>
    rw [if_neg Bool.false_ne_true, if_neg Bool.false_ne_true, ← List.append_nil " |".toList,
      Text.occurrences_separated hbar, occurrences_pad, occurrences]
  | true =>
    rw [if_pos rfl, if_pos rfl, hnote, Text.occurrences_separated hbehind, occurrences_pad, hone]

/-! ## The lines of a table -/

theorem tableLines_of_no_attributes {t : Table} (h : t.attributes = []) :
    tableLines t = if t.isEmpty then [noneFound] else [] := by
  rw [tableLines]
  cases t.orientation with
  | horizontal =>
    show horizontal t t.grid = _
    rw [horizontal, Table.lines_of_no_attributes h, List.nil_append]
  | vertical =>
    show vertical t t.grid = _
    rw [vertical, Table.lines_of_no_attributes h]

/-- The note is the last line. -/
theorem tableLines_noted {t : Table} (hrows : t.rows = [])
    (h : t.orientation = .horizontal ∨ t.attributes = []) :
    ∃ lines, tableLines t = lines ++ ["none found"] := by
  have hempty : t.isEmpty = true := by rw [Table.isEmpty, hrows]; rfl
  rcases h with ho | ha
  · rw [tableLines, ho]
    exact ⟨_, by rw [horizontal, hempty]; rfl⟩
  · exact ⟨[], by rw [tableLines_of_no_attributes ha, hempty]; rfl⟩

/-- The note is behind the bar of the first line, and no other line has anything behind it. -/
theorem tableLines_beside {t : Table} (hrows : t.rows = []) (ho : t.orientation = .vertical)
    {a : String} {rest : List String} (ha : t.attributes = a :: rest) :
    tableLines t = verticalLine t.grid.widths true [.head a] ::
      rest.map fun a => verticalLine t.grid.widths false [.head a] := by
  rw [tableLines, ho]
  show vertical t t.grid = _
  simp [vertical, Table.lines_vertical ho, hrows, ha, Function.comp_def]

theorem occurrencesIn_lines {f : List GridCell → String} {lines : List (List GridCell)}
    (h : ∀ line ∈ lines, occurrences note (f line).toList =
      occurrencesIn note (line.map (·.text.toList))) :
    occurrencesIn note ((lines.map f).map String.toList) =
      occurrencesIn note (Grid.mk lines).texts := by
  induction lines with
  | nil => rfl
  | cons line lines ih =>
    rw [List.forall_mem_cons] at h
    rw [List.map_cons, List.map_cons, occurrencesIn, h.1, ih h.2, ← Text.occurrencesIn_append]
    rfl

theorem occurrencesIn_horizontal {t : Table} (ho : t.orientation = .horizontal)
    (ha : t.attributes ≠ []) :
    occurrencesIn note ((tableLines t).map String.toList) =
      occurrencesIn note t.grid.texts + if t.rows = [] then 1 else 0 := by
  obtain ⟨head, values, hlines⟩ := List.exists_cons_of_ne_nil (Table.lines_ne_nil ha)
  have hdrawn : occurrencesIn note ((t.grid.lines.map (paddedCells · t.grid.widths)).map
      String.toList) = occurrencesIn note t.grid.texts :=
    occurrencesIn_lines fun line hline =>
      occurrences_paddedCells (Table.length_eq_length_widths hline)
  have hnote : occurrencesIn note ((if t.isEmpty then [noneFound] else []).map String.toList) =
      if t.rows = [] then 1 else 0 := by
    cases hrows : t.rows with
    | nil =>
      rw [Table.isEmpty, hrows]
      decide
    | cons row rows =>
      rw [Table.isEmpty, hrows]
      rfl
  rw [hlines, List.map_cons, List.map_cons, occurrencesIn] at hdrawn
  rw [tableLines_horizontal ho hlines, List.map_append, Text.occurrencesIn_append, hnote,
    List.map_cons, List.map_cons, occurrencesIn, occurrencesIn, occurrences_times, Nat.zero_add,
    hdrawn]

theorem occurrencesIn_beside {t : Table} (ho : t.orientation = .vertical) (hrows : t.rows = [])
    {a : String} {rest : List String} (ha : t.attributes = a :: rest) :
    occurrencesIn note ((tableLines t).map String.toList) =
      occurrencesIn note t.grid.texts + 1 := by
  have hlines : t.grid.lines = [.head a] :: rest.map fun a => [.head a] := by
    simp [Table.lines_vertical ho, hrows, ha]
  have htexts : t.grid.texts = a.toList :: (Grid.mk (rest.map fun a => [.head a])).texts := by
    rw [Grid.texts, hlines]
    rfl
  have hrest : occurrencesIn note (((rest.map fun a => [GridCell.head a]).map
      (verticalLine t.grid.widths false)).map String.toList) =
      occurrencesIn note (Grid.mk (rest.map fun a => [.head a])).texts := by
    refine occurrencesIn_lines ?_
    rw [List.forall_mem_map]
    exact fun a _ => occurrences_no_values _ _ _
  have hbars : (rest.map fun a => [GridCell.head a]).map (verticalLine t.grid.widths false) =
      rest.map fun a => verticalLine t.grid.widths false [.head a] := List.map_map
  have hfirst := occurrences_no_values t.grid.widths true (.head a)
  rw [hbars] at hrest
  rw [tableLines_beside hrows ho ha, List.map_cons, occurrencesIn, hfirst, if_pos rfl,
    Nat.add_right_comm, htexts, occurrencesIn, ← hrest]
  rfl

theorem occurrencesIn_vertical {t : Table} (ho : t.orientation = .vertical) (hrows : t.rows ≠ []) :
    occurrencesIn note ((tableLines t).map String.toList) = occurrencesIn note t.grid.texts := by
  rw [tableLines_vertical ho hrows]
  refine occurrencesIn_lines fun line hline => ?_
  have hlength := Table.length_eq_length_widths hline
  rw [Table.lines_vertical ho] at hline
  obtain ⟨a, -, rfl⟩ := List.mem_map.mp hline
  exact occurrences_values (by simpa using hrows) hlength

/-- **In plain text** the note stands once more than the cells show it if the table has no rows, and
only where the cells show it otherwise. -/
theorem occurrences_table (t : Table) :
    occurrences note (encoder.table t).toList =
      occurrencesIn note t.grid.texts + if t.rows = [] then 1 else 0 := by
  have hfeed : Separates "\n".toList note := by decide
  have htext : (encoder.table t).toList =
      ((tableLines t).map String.toList).flatMap (· ++ "\n".toList) := by
    show (String.join (lineWrites (tableLines t))).toList = _
    simp [lineWrites, List.flatMap_map]
  rw [htext, Text.occurrences_flatMap hfeed]
  by_cases ha : t.attributes = []
  · rw [tableLines_of_no_attributes ha, Grid.texts, Table.lines_of_no_attributes ha, Table.isEmpty]
    cases t.rows with
    | nil => decide
    | cons row rows => rfl
  cases ho : t.orientation with
  | horizontal => exact occurrencesIn_horizontal ho ha
  | vertical =>
    by_cases hrows : t.rows = []
    · obtain ⟨a, rest, has⟩ := List.exists_cons_of_ne_nil ha
      rw [if_pos hrows, occurrencesIn_beside ho hrows has]
    · rw [if_neg hrows, Nat.add_zero, occurrencesIn_vertical ho hrows]

end Plain

/-- **A table without rows says so exactly once**, and a table with rows never does.

On a page the note stands in a cell beside or below the lines, and all rows cover the same columns.
In plain text the note has the last line for itself, or it ends the first line of a vertical table,
of which all other lines end at the bar. -/
theorem Table.none_found_once (t : Table) :
    Text.occurrences "<em>none found</em>".toList (Html.encoder.table t).toList =
      (if t.rows = [] then 1 else 0) ∧
    (∃ rows columns, Html.tableRows? (Html.encoder.table t) = some rows ∧
      Html.Covers columns [] rows) ∧
    Text.occurrences "none found".toList (Plain.encoder.table t).toList =
      Text.occurrencesIn "none found".toList t.grid.texts + (if t.rows = [] then 1 else 0) ∧
    ∃ lines : List String, Plain.encoder.table t = String.join (lines.map (· ++ "\n")) ∧
      (t.rows = [] → t.orientation = .horizontal ∨ t.attributes = [] →
        ∃ front, lines = front ++ ["none found"]) ∧
      (t.rows = [] → t.orientation = .vertical → ∀ a rest, t.attributes = a :: rest →
        ∃ width, lines = (Text.pad width a ++ " |   none found") ::
          rest.map fun a => Text.pad width a ++ " |") := by
  obtain ⟨columns, hcovers⟩ := Html.covers_table t
  refine ⟨Html.occurrences_table t, ⟨_, columns, Html.tableRows?_table t, hcovers⟩,
    Plain.occurrences_table t, Plain.tableLines t, rfl, Plain.tableLines_noted,
    fun hrows ho a rest ha => ⟨t.grid.widths.headD 0, ?_⟩⟩
  rw [Plain.tableLines_beside hrows ho ha]
  simp only [Plain.verticalLine_of_no_values]
  rfl

end AdapterReport
