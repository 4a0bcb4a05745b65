import AdapterReport.Table.Basic

/-!
# The drawn grid

`Table.grid` lays a table out in lines of cells, so that all encoders agree on which cells are heads
and on the widths of the columns. A width is the largest number of characters in a column.
-/

namespace AdapterReport

/-- A cell of the grid. -/
structure GridCell where
  text : String
  isHead : Bool
  deriving DecidableEq

namespace GridCell

/-- The cell that names an attribute. -/
def head (name : String) : GridCell := ⟨name, true⟩

/-- The cell that shows a value. -/
def value (c : Cell) : GridCell := ⟨c.display, false⟩

/-- The number of characters of a cell. -/
def width (c : GridCell) : Nat := c.text.length

end GridCell

/-- The lines of a drawn table. -/
structure Grid where
  lines : List (List GridCell)
  deriving DecidableEq

namespace Table

/-- The lines of a table with its attributes at the top; without attributes there are none. -/
def horizontalLines (t : Table) : List (List GridCell) :=
  if t.attributes.isEmpty then []
  else t.attributes.map .head ::
    t.rows.map fun row => t.attributes.map fun a => .value (row.get a)

/-- The lines of a table with its attributes at the left. -/
def verticalLines (t : Table) : List (List GridCell) :=
  t.attributes.map fun a => .head a :: t.rows.map fun row => .value (row.get a)

/-- A table as it is drawn. -/
def grid (t : Table) : Grid :=
  match t.orientation with
  | .horizontal => ⟨t.horizontalLines⟩
  | .vertical => ⟨t.verticalLines⟩

end Table

namespace Grid

/-- The larger one of the numbers at each place. Where one list has ended, the other one stays. -/
def joinWidths : List Nat → List Nat → List Nat
  | [], ws => ws
  | vs, [] => vs
  | v :: vs, w :: ws => max v w :: joinWidths vs ws

/-- The widths of the columns. -/
def widths (g : Grid) : List Nat :=
  g.lines.foldl (fun ws line => joinWidths ws (line.map GridCell.width)) []

/-- The width of the grid with `gutter` characters between the columns. -/
def totalWidth (g : Grid) (gutter : Nat) : Nat :=
  g.widths.foldl (· + ·) 0 + gutter * (g.widths.length - 1)

end Grid

end AdapterReport
