import AdapterReport.Proofs.Html.Rows
import AdapterReport.Proofs.Table.Layout
import AdapterReport.Proofs.Text.Digits

/-!
# The columns that cells cover

A cell of a page covers as many columns and rows as its attributes say. `covers_table`: the rows of
a table all cover the same columns, and no cell reaches below the last one. A row takes the columns
that no cell above it still covers (`fill`). In most tables no cell reaches into another row
(`covers_of_slots`); where the note that there are no rows stands beside all heads, each row covers
the column of its head and the note the other one (`covers_beside`).
-/

namespace AdapterReport.Html

/-! ## Spans -/

/-- How many columns or rows a cell covers: what the attribute says, one without it. -/
def Element.spanOf (name : String) (e : Element) : Nat :=
  match e.attributes.find? (·.name == name) with
  | some a => Text.natOfDigits a.value.toList
  | none => 1

/-- The columns that the cells of a row cover, each with the number of rows for which it does. -/
def slots (row : List Element) : List Nat :=
  row.flatMap fun e => List.replicate (e.spanOf "colspan") (e.spanOf "rowspan")

/-- The columns of a row, each with the number of rows from this one on for which it is covered. A
column that a cell above covers stays, the others take the slots of the row in order. -/
def fill : List Nat → List Nat → List Nat
  | [], slots => slots
  | 0 :: above, [] => 0 :: fill above []
  | 0 :: above, slot :: slots => slot :: fill above slots
  | (n + 1) :: above, slots => (n + 1) :: fill above slots

/-- Below what is covered from above, each row covers just these columns, and no cell reaches below
the last row. -/
def Covers (columns : Nat) : List Nat → List (List Element) → Prop
  | above, [] => ∀ n ∈ above, n = 0
  | above, row :: rows =>
    (fill above (slots row)).length = columns ∧ 0 ∉ fill above (slots row) ∧
      Covers columns ((fill above (slots row)).map (· - 1)) rows

/-! ## Rows that cover their columns -/

theorem fill_of_free {above slots : List Nat} (hfree : ∀ n ∈ above, n = 0)
    (hle : above.length ≤ slots.length) : fill above slots = slots := by
  induction above generalizing slots with
  | nil => rfl
  | cons n above ih =>
    cases slots with
    | nil => exact absurd hle (Nat.not_succ_le_zero _)
    | cons slot slots =>
      rw [List.forall_mem_cons] at hfree
      rw [hfree.1, fill, ih hfree.2 (Nat.le_of_succ_le_succ hle)]

/-- Rows with a cell of their own in each column cover them. -/
theorem covers_of_slots {columns : Nat} {rows : List (List Element)}
    (h : ∀ row ∈ rows, slots row = .replicate columns 1) {above : List Nat}
    (hfree : ∀ n ∈ above, n = 0) (hle : above.length ≤ columns) : Covers columns above rows := by
  induction rows generalizing above with
  | nil => exact hfree
  | cons row rows ih =>
    rw [List.forall_mem_cons] at h
    have hfill : fill above (slots row) = .replicate columns 1 := by
      rw [h.1, fill_of_free hfree (by rwa [List.length_replicate])]
    rw [Covers, hfill, List.length_replicate, List.map_replicate]
    refine ⟨rfl, fun hmem => absurd (List.eq_of_mem_replicate hmem) (by decide), ih h.2 ?_ ?_⟩
    · exact fun n hn => List.eq_of_mem_replicate hn
    · exact Nat.le_of_eq List.length_replicate

/-- Rows with a cell in the first column cover two of them beside a cell that reaches along all of
the rows. -/
theorem covers_beside {rows : List (List Element)} (h : ∀ row ∈ rows, slots row = [1]) :
    Covers 2 [0, rows.length] rows := by
  induction rows with
  | nil => simp [Covers]
  | cons row rows ih =>
    rw [List.forall_mem_cons] at h
    have hfill : fill [0, rows.length + 1] (slots row) = [1, rows.length + 1] := by
      rw [h.1]
      rfl
    rw [List.length_cons, Covers, hfill]
    exact ⟨rfl, by simp, ih h.2⟩

/-! ## The slots of a table -/

theorem slots_cells (preformatted : Bool) (line : List GridCell) :
    slots (line.map (cellElement preformatted)) = .replicate line.length 1 := by
  have hspan (name : String) (c : GridCell) : (cellElement preformatted c).spanOf name = 1 := by
    unfold cellElement
    split <;> rfl
  induction line with
  | nil => rfl
  | cons c line ih =>
    rw [List.map_cons, slots, List.flatMap_cons, hspan, hspan, ← slots, ih]
    rfl

/-- A number is read from an attribute as it was written. -/
theorem natOfDigits_span (name : String) (count : Nat) :
    Text.natOfDigits (span name count).mark.value.toList = count := by
  have hvalue : (span name count).mark.value = Text.decimalPadded 1 count := by
    simp [span, Attribute.mark, Attribute.valueText, ValuePart.text]
  rw [hvalue, Text.natOfDigits_decimalPadded_one]

theorem slots_note_colspan (count : Nat) :
    slots [noteElement [span "colspan" count]] = .replicate count 1 := by
  have hcol : (noteElement [span "colspan" count]).spanOf "colspan" = count :=
    natOfDigits_span "colspan" count
  have hrow : (noteElement [span "colspan" count]).spanOf "rowspan" = 1 := rfl
  rw [slots, List.flatMap_singleton, hcol, hrow]

theorem slots_note_rowspan (count : Nat) :
    slots [noteElement [span "rowspan" count]] = [count] := by
  have hcol : (noteElement [span "rowspan" count]).spanOf "colspan" = 1 := rfl
  have hrow : (noteElement [span "rowspan" count]).spanOf "rowspan" = count :=
    natOfDigits_span "rowspan" count
  rw [slots, List.flatMap_singleton, hcol, hrow]
  rfl

/-! ## The rows of a table -/

theorem gridRows_cons {t : Table} {first : List GridCell} {rest : List (List GridCell)}
    (h : t.grid.lines = first :: rest) :
    gridRows t = (first.map (cellElement (t.valueStyle = .preformatted)) ++ firstNote t) ::
      rest.map fun line => line.map (cellElement (t.valueStyle = .preformatted)) := by
  rw [gridRows, h]

theorem gridRows_of_no_note {t : Table} (h : firstNote t = []) :
    gridRows t = t.grid.lines.map fun line =>
      line.map (cellElement (t.valueStyle = .preformatted)) := by
  cases hlines : t.grid.lines with
  | nil => rw [gridRows, hlines, List.map_nil]
  | cons first rest => rw [gridRows_cons hlines, h, List.append_nil, List.map_cons]

/-- Without attributes there is no row but the one of the note. -/
theorem covers_no_attributes {t : Table} (ha : t.attributes = []) :
    Covers 1 [] (gridRows t ++ lastRow t) := by
  have hgrid : gridRows t = [] := by rw [gridRows, Table.lines_of_no_attributes ha]
  refine covers_of_slots ?_ (fun _ h => absurd h List.not_mem_nil) (Nat.zero_le _)
  rw [hgrid, List.nil_append, lastRow, ha]
  split
  · exact fun _ h => absurd h List.not_mem_nil
  · exact List.forall_mem_singleton.mpr rfl

/-- Every row of the grid has a cell of its own in each column, and so does the note below it. -/
theorem covers_lines {t : Table} (ha : t.attributes ≠ []) (hnote : firstNote t = []) :
    Covers t.columnCount [] (gridRows t ++ lastRow t) := by
  refine covers_of_slots ?_ (fun _ h => absurd h List.not_mem_nil) (Nat.zero_le _)
  rw [List.forall_mem_append]
  constructor
  · rw [gridRows_of_no_note hnote, List.forall_mem_map]
    intro line hline
    rw [slots_cells, Table.length_of_mem_lines hline]
  · unfold lastRow
    split
    · exact fun _ h => absurd h List.not_mem_nil
    split
    · rename_i hnil
      exact absurd (List.isEmpty_iff.mp hnil) ha
    split
    · rename_i ho
      rw [List.forall_mem_singleton, slots_note_colspan, Table.columnCount, ho]
    · exact fun _ h => absurd h List.not_mem_nil

/-- A vertical table without rows is a column of heads with the note beside them. -/
theorem covers_heads {t : Table} (ho : t.orientation = .vertical) (hrows : t.rows = [])
    (ha : t.attributes ≠ []) : Covers 2 [] (gridRows t ++ lastRow t) := by
  have hlast : lastRow t = [] := by simp [lastRow, Table.isEmpty, hrows, ha, ho]
  obtain ⟨a, rest, has⟩ := List.exists_cons_of_ne_nil ha
  have hfirst : firstNote t = [noteElement [span "rowspan" (rest.length + 1)]] := by
    simp [firstNote, Table.isEmpty, hrows, ho, has]
  have hlines : t.grid.lines = [.head a] :: rest.map fun a => [.head a] := by
    simp [Table.lines_vertical ho, hrows, has]
  have hhead (a : String) : slots ([GridCell.head a].map
      (cellElement (t.valueStyle = .preformatted))) = [1] :=
    slots_cells _ _
  have hbelow : ∀ row ∈ (rest.map fun a => [GridCell.head a]).map fun line =>
      line.map (cellElement (t.valueStyle = .preformatted)), slots row = [1] := by
    rw [List.forall_mem_map, List.forall_mem_map]
    exact fun a _ => hhead a
  have hline : slots ([GridCell.head a].map (cellElement (t.valueStyle = .preformatted)) ++
      [noteElement [span "rowspan" (rest.length + 1)]]) = [1, rest.length + 1] := by
    rw [slots, List.flatMap_append, ← slots, ← slots, hhead, slots_note_rowspan]
    rfl
  have hrest := covers_beside hbelow
  rw [List.length_map, List.length_map] at hrest
  rw [hlast, List.append_nil, gridRows_cons hlines, hfirst, Covers, hline]
  exact ⟨rfl, by simp [fill], hrest⟩

/-- **The rows of a table all cover the same columns**, and no cell reaches below the last row. -/
theorem covers_table (t : Table) : ∃ columns, Covers columns [] (gridRows t ++ lastRow t) := by
  by_cases ha : t.attributes = []
  · exact ⟨1, covers_no_attributes ha⟩
  by_cases hbeside : t.orientation = .vertical ∧ t.rows = []
  · exact ⟨2, covers_heads hbeside.1 hbeside.2 ha⟩
  · refine ⟨t.columnCount, covers_lines ha ?_⟩
    rw [firstNote, if_neg]
    simpa [Table.isEmpty] using hbeside

end AdapterReport.Html
