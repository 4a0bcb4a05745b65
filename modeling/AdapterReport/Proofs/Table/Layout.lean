import AdapterReport.Encoder.Plain
import AdapterReport.Proofs.Table.Widths

/-!
# The layout of a table

`Table.layout_rectangular`: a table is laid out in a rectangle with a width for each column, and the
two directions of drawing are each other's transposes, whatever cells the rows have.

* `Row.get_set`: the cell that was set last is the one that is found.
* `Table.length_of_mem_lines`, `Table.length_lines`: the sides of the rectangle.
* `Table.cell?_vertical`: a cell of one direction is the cell of the other one with its line and
  its column exchanged.
* `Plain.verticalLine?_of_mem`: a line of a vertical table is cut behind its first cell, and the
  widths behind the first one, which both exist.
-/

namespace AdapterReport

/-! ## The cells of a row -/

namespace Row

variable {name a : String} {cell : Cell}

theorem find?_insert_self (cells : List (String × Cell)) :
    (insert name cell cells).find? (·.1 == name) = some (name, cell) := by
  induction cells with
  | nil => simp [insert]
  | cons e rest ih =>
    unfold insert
    split
    · simp
    split
    · rename_i hlt
      have hne : e.1 ≠ name := fun heq => String.lt_irrefl _ (heq ▸ hlt)
      simp [hne, ih]
    · simp

theorem find?_insert_of_ne (h : name ≠ a) (cells : List (String × Cell)) :
    (insert name cell cells).find? (·.1 == a) = cells.find? (·.1 == a) := by
  induction cells with
  | nil => simp [insert, h]
  | cons e rest ih =>
    unfold insert
    split
    · simp [h]
    split
    · rw [List.find?_cons, List.find?_cons, ih]
    · rename_i hlt hgt
      have heq : e.1 = name := String.le_antisymm (String.not_lt.mp hlt) (String.not_lt.mp hgt)
      simp [h, heq]

/-- The cell that was set last is the one that is found. -/
theorem get_set (r : Row) (name : String) (cell : Cell) (a : String) :
    (r.set name cell).get a = if name = a then cell else r.get a := by
  split
  · subst a
    simp [set, get, find?_insert_self]
  · rename_i h
    simp [set, get, find?_insert_of_ne h]

theorem get_foldl_set {cells : List (String × Cell)} (h : a ∉ cells.map (·.1)) (r : Row) :
    (cells.foldl (fun r c => r.set c.1 c.2) r).get a = r.get a := by
  induction cells generalizing r with
  | nil => rfl
  | cons c rest ih =>
    rw [List.map_cons, List.mem_cons, not_or] at h
    rw [List.foldl_cons, ih h.2, get_set, if_neg (Ne.symm h.1)]

/-- An attribute that was never set is absent. -/
theorem get_ofList_of_not_mem {cells : List (String × Cell)} (h : a ∉ cells.map (·.1)) :
    (ofList cells).get a = .absent :=
  get_foldl_set h empty

/-- An attribute has the cell that it was set to last. -/
theorem get_ofList_append_cons {after : List (String × Cell)} (h : a ∉ after.map (·.1))
    (before : List (String × Cell)) (cell : Cell) :
    (ofList (before ++ (a, cell) :: after)).get a = cell := by
  rw [ofList, List.foldl_append, List.foldl_cons, get_foldl_set h, get_set, if_pos rfl]

/-- An attribute that is set once has the cell that it was set to. -/
theorem get_ofList_of_mem {cells : List (String × Cell)} (hdistinct : (cells.map (·.1)).Nodup)
    (h : (a, cell) ∈ cells) : (ofList cells).get a = cell := by
  obtain ⟨before, after, rfl⟩ := List.append_of_mem h
  refine get_ofList_append_cons ?_ before cell
  rw [List.map_append, List.map_cons] at hdistinct
  exact (List.nodup_cons.mp (List.nodup_append.mp hdistinct).2.1).1

theorem map_get_ofList {cells : List (String × Cell)} (hdistinct : (cells.map (·.1)).Nodup) :
    (cells.map (·.1)).map (ofList cells).get = cells.map (·.2) := by
  rw [List.map_map]
  exact List.map_congr_left fun _ he => get_ofList_of_mem hdistinct he

end Row

/-! ## Cells of a grid -/

/-- The cell in a line and a column. -/
def Grid.cell? (g : Grid) (y x : Nat) : Option GridCell :=
  g.lines[y]?.bind (·[x]?)

/-! ## The lines of a table -/

namespace Table

variable {t : Table}

/-- How many lines a drawn table has. -/
def lineCount (t : Table) : Nat :=
  match t.orientation with
  | .horizontal => 1 + t.rows.length
  | .vertical => t.attributes.length

/-- How many cells a line of a drawn table has. -/
def columnCount (t : Table) : Nat :=
  match t.orientation with
  | .horizontal => t.attributes.length
  | .vertical => 1 + t.rows.length

theorem grid_of_horizontal (h : t.orientation = .horizontal) : t.grid = ⟨t.horizontalLines⟩ := by
  rw [grid, h]

theorem grid_of_vertical (h : t.orientation = .vertical) : t.grid = ⟨t.verticalLines⟩ := by
  rw [grid, h]

theorem horizontalLines_of_ne_nil (h : t.attributes ≠ []) :
    t.horizontalLines = t.attributes.map .head ::
      t.rows.map fun row => t.attributes.map fun a => .value (row.get a) := by
  rw [horizontalLines, if_neg (by simpa using h)]

theorem lines_horizontal (ho : t.orientation = .horizontal) (h : t.attributes ≠ []) :
    t.grid.lines = t.attributes.map .head ::
      t.rows.map fun row => t.attributes.map fun a => .value (row.get a) := by
  rw [grid_of_horizontal ho, horizontalLines_of_ne_nil h]

theorem lines_vertical (ho : t.orientation = .vertical) :
    t.grid.lines = t.attributes.map fun a =>
      .head a :: t.rows.map fun row => .value (row.get a) := by
  rw [grid_of_vertical ho, verticalLines]

theorem lines_of_no_attributes (h : t.attributes = []) : t.grid.lines = [] := by
  cases ho : t.orientation with
  | horizontal => simp [grid_of_horizontal ho, horizontalLines, h]
  | vertical => rw [lines_vertical ho, h, List.map_nil]

theorem attributes_ne_nil_of_mem {line : List GridCell} (h : line ∈ t.grid.lines) :
    t.attributes ≠ [] := by
  intro hnil
  rw [lines_of_no_attributes hnil] at h
  exact List.not_mem_nil h

theorem length_lines (h : t.attributes ≠ []) : t.grid.lines.length = t.lineCount := by
  cases ho : t.orientation with
  | horizontal => simp [lineCount, ho, lines_horizontal ho h, Nat.add_comm]
  | vertical => simp [lineCount, ho, lines_vertical ho]

theorem length_of_mem_lines {line : List GridCell} (h : line ∈ t.grid.lines) :
    line.length = t.columnCount := by
  have ha := attributes_ne_nil_of_mem h
  cases ho : t.orientation with
  | horizontal =>
    rw [lines_horizontal ho ha] at h
    rcases List.mem_cons.mp h with rfl | h
    · simp [columnCount, ho]
    · obtain ⟨row, -, rfl⟩ := List.mem_map.mp h
      simp [columnCount, ho]
  | vertical =>
    rw [lines_vertical ho] at h
    obtain ⟨a, -, rfl⟩ := List.mem_map.mp h
    simp [columnCount, ho, Nat.add_comm]

theorem lineCount_pos (h : t.attributes ≠ []) : 0 < t.lineCount := by
  unfold lineCount
  split
  · exact Nat.lt_add_right _ Nat.one_pos
  · exact List.length_pos_iff.mpr h

theorem lines_ne_nil (h : t.attributes ≠ []) : t.grid.lines ≠ [] := by
  apply List.ne_nil_of_length_pos
  rw [length_lines h]
  exact lineCount_pos h

/-- A table with attributes has a width for each cell of a line. -/
theorem length_widths (h : t.attributes ≠ []) : t.grid.widths.length = t.columnCount := by
  obtain ⟨line, hline⟩ := List.exists_mem_of_ne_nil _ (lines_ne_nil h)
  exact Grid.length_widths (fun _ hline => Nat.le_of_eq (length_of_mem_lines hline))
    (.inr ⟨line, hline, length_of_mem_lines hline⟩)

/-- **A grid is a rectangle**: every line has a cell for each width. -/
theorem length_eq_length_widths {line : List GridCell} (h : line ∈ t.grid.lines) :
    line.length = t.grid.widths.length := by
  rw [length_of_mem_lines h, length_widths (attributes_ne_nil_of_mem h)]

/-! ### The two directions -/

/-- The table drawn in a direction. -/
def drawn (t : Table) (o : Orientation) : Grid :=
  { t with orientation := o }.grid

theorem cell?_horizontal_head (t : Table) (x : Nat) :
    (t.drawn .horizontal).cell? 0 x = t.attributes[x]?.map .head := by
  show (Grid.mk t.horizontalLines).cell? 0 x = _
  by_cases h : t.attributes = []
  · simp [Grid.cell?, horizontalLines, h]
  · simp [Grid.cell?, horizontalLines_of_ne_nil h]

theorem cell?_horizontal_value (t : Table) (y x : Nat) :
    (t.drawn .horizontal).cell? (y + 1) x =
      t.rows[y]?.bind fun row => t.attributes[x]?.map fun a => .value (row.get a) := by
  show (Grid.mk t.horizontalLines).cell? (y + 1) x = _
  by_cases h : t.attributes = []
  · simp [Grid.cell?, horizontalLines, h]
  · rw [Grid.cell?, horizontalLines_of_ne_nil h, List.getElem?_cons_succ, List.getElem?_map]
    cases t.rows[y]? with
    | none => rfl
    | some row => exact List.getElem?_map

/-- **The directions of drawing** are each other's transposes. -/
theorem cell?_vertical (t : Table) (y x : Nat) :
    (t.drawn .vertical).cell? y x = (t.drawn .horizontal).cell? x y := by
  have hline : (t.drawn .vertical).cell? y x = t.attributes[y]?.bind fun a =>
      (GridCell.head a :: t.rows.map fun row => .value (row.get a))[x]? := by
    show (Grid.mk t.verticalLines).cell? y x = _
    rw [Grid.cell?, verticalLines, List.getElem?_map]
    cases t.attributes[y]? <;> rfl
  rw [hline]
  cases x with
  | zero =>
    rw [cell?_horizontal_head]
    cases t.attributes[y]? <;> rfl
  | succ x =>
    rw [cell?_horizontal_value]
    cases t.attributes[y]? with
    | none => simp
    | some a =>
      rw [Option.bind_some, List.getElem?_cons_succ, List.getElem?_map, Option.map_eq_bind]
      rfl

end Table

/-! ## The lines of a vertical table -/

namespace Plain

/-- What stands before and behind a place of a list; `none` if the place is outside. -/
def cutAt? {α : Type} (n : Nat) (xs : List α) : Option (List α × List α) :=
  if n ≤ xs.length then some (xs.take n, xs.drop n) else none

/-- A line of a vertical table, cut behind its first cell and drawn with the widths behind the
first one; `none` if a cut, the first cell or its width is outside. -/
def verticalLine? (widths : List Nat) (marked : Bool) (line : List GridCell) : Option String := do
  let (heads, values) ← cutAt? 1 line
  let head ← heads[0]?
  let width ← widths[0]?
  let text := Text.pad width head.text ++ " |"
  if !values.isEmpty then
    let (_, rest) ← cutAt? 1 widths
    return text ++ (" " ++ paddedCells values rest)
  else if marked then return text ++ (" " ++ gutter ++ noneFound)
  else return text

theorem verticalLine?_eq {widths : List Nat} {line : List GridCell} (hline : line ≠ [])
    (hwidths : widths ≠ []) (marked : Bool) :
    verticalLine? widths marked line = some (verticalLine widths marked line) := by
  cases line with
  | nil => exact absurd rfl hline
  | cons head values =>
    cases widths with
    | nil => exact absurd rfl hwidths
    | cons width widths =>
      cases values <;> cases marked <;> simp [verticalLine?, verticalLine, cutAt?]

/-- In every line of a vertical table the first cell and its width are there. -/
theorem verticalLine?_of_mem {t : Table} (ho : t.orientation = .vertical) {line : List GridCell}
    (h : line ∈ t.grid.lines) (marked : Bool) :
    verticalLine? t.grid.widths marked line = some (verticalLine t.grid.widths marked line) := by
  have hlength : line.length = 1 + t.rows.length := by
    rw [Table.length_of_mem_lines h, Table.columnCount, ho]
  have hwidths : t.grid.widths.length = 1 + t.rows.length := by
    rw [← Table.length_eq_length_widths h, hlength]
  exact verticalLine?_eq (List.ne_nil_of_length_pos (by omega))
    (List.ne_nil_of_length_pos (by omega)) marked

end Plain

/-! ## The layout of a table -/

/-- **A table is laid out in a rectangle** that has a width for each column, and drawn in the other
direction it is the transpose. All its cells have a place among the widths: while they are found
(`Grid.widthsInPlace?`), and in the lines of a vertical table (`Plain.verticalLine?`). -/
theorem Table.layout_rectangular (t : Table) :
    (∀ line ∈ t.grid.lines, line.length = t.grid.widths.length) ∧
    (t.attributes = [] → t.grid.lines = []) ∧
    (t.attributes ≠ [] → t.orientation = .horizontal →
      t.grid.lines.length = 1 + t.rows.length ∧ t.grid.widths.length = t.attributes.length) ∧
    (t.attributes ≠ [] → t.orientation = .vertical →
      t.grid.lines.length = t.attributes.length ∧ t.grid.widths.length = 1 + t.rows.length) ∧
    (∀ (x w : Nat), t.grid.widths[x]? = some w →
      (∀ cells ∈ t.grid.lines, ∀ c : GridCell, cells[x]? = some c → c.text.length ≤ w) ∧
      ∃ cells ∈ t.grid.lines, ∃ c : GridCell, cells[x]? = some c ∧ c.text.length = w) ∧
    (∀ y x, (t.drawn .vertical).cell? y x = (t.drawn .horizontal).cell? x y) ∧
    (∀ x, (t.drawn .horizontal).cell? 0 x = t.attributes[x]?.map fun a => ⟨a, true⟩) ∧
    (∀ y x, (t.drawn .horizontal).cell? (y + 1) x =
      t.rows[y]?.bind fun row => t.attributes[x]?.map fun a => ⟨(row.get a).display, false⟩) ∧
    (∀ cells : List (String × Cell), ∀ a ∉ cells.map (·.1),
      ((Row.ofList cells).get a).display = "<N/A>") ∧
    (∀ (before after : List (String × Cell)) (a : String) (cell : Cell), a ∉ after.map (·.1) →
      ((Row.ofList (before ++ (a, cell) :: after)).get a).display = match cell with
        | .text s => s
        | .number n => toString n.toInt
        | .absent => "<N/A>") ∧
    t.grid.widthsInPlace? = some t.grid.widths ∧
    (t.orientation = .vertical → ∀ line ∈ t.grid.lines, ∀ marked,
      Plain.verticalLine? t.grid.widths marked line =
        some (Plain.verticalLine t.grid.widths marked line)) := by
  refine ⟨fun _ => length_eq_length_widths, lines_of_no_attributes, fun ha ho => ?_,
    fun ha ho => ?_, fun x w hw => ?_, cell?_vertical t, cell?_horizontal_head t,
    cell?_horizontal_value t, fun cells a ha => ?_, fun before after a cell ha => ?_,
    Grid.widthsInPlace?_eq _,
    fun ho _ hline marked => Plain.verticalLine?_of_mem ho hline marked⟩
  · rw [length_lines ha, length_widths ha, lineCount, columnCount, ho]
    exact ⟨rfl, rfl⟩
  · rw [length_lines ha, length_widths ha, lineCount, columnCount, ho]
    exact ⟨rfl, rfl⟩
  · obtain ⟨hattained, hle⟩ := Grid.getElem?_widths_eq_some.mp hw
    exact ⟨hle, hattained⟩
  · rw [Row.get_ofList_of_not_mem ha]
    rfl
  · rw [Row.get_ofList_append_cons ha]
    cases cell <;> rfl

end AdapterReport
