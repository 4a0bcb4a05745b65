import AdapterReport.Encoder.Basic
import AdapterReport.Table.Grid

/-!
# Plain text

Tables in columns: a horizontal table has a rule of `=` below its heads, a vertical one a bar behind
them. A table without rows says so once.
-/

namespace AdapterReport

/-- What is drawn for a table without rows. -/
def noneFound : String := "none found"

namespace Plain

/-- What stands between two columns. -/
def gutter : String := "  "

/-- Cells filled up to the widths of their columns. -/
def paddedCells (cells : List GridCell) (widths : List Nat) : String :=
  gutter.intercalate ((cells.zip widths).map fun c => Text.pad c.2 c.1.text)

/-- The lines of a horizontal table. -/
def horizontal (t : Table) (g : Grid) : List String :=
  (match g.lines with
    | [] => []
    | head :: rows =>
      paddedCells head g.widths :: Text.times (g.totalWidth gutter.length) '='
        :: rows.map fun row => paddedCells row g.widths)
    ++ if t.isEmpty then [noneFound] else []

/-- A line of a vertical table: a head, the bar, and the values or, where `marked`, the note that
there are none. -/
def verticalLine (widths : List Nat) (marked : Bool) : List GridCell → String
  | [] => ""
  | head :: values =>
    Text.pad (widths.headD 0) head.text ++ " |"
      ++ if !values.isEmpty then " " ++ paddedCells values widths.tail
        else if marked then " " ++ gutter ++ noneFound
        else ""

/-- The lines of a vertical table. -/
def vertical (t : Table) (g : Grid) : List String :=
  match g.lines with
  | [] => if t.isEmpty then [noneFound] else []
  | line :: rest => verticalLine g.widths true line :: rest.map (verticalLine g.widths false)

/-- The lines of a table. -/
def tableLines (t : Table) : List String :=
  match t.orientation with
  | .horizontal => horizontal t t.grid
  | .vertical => vertical t t.grid

/-- Lines as they are written, each on its own. -/
def lineWrites (lines : List String) : List String :=
  lines.map (· ++ "\n")

/-- A table. -/
def table (t : Table) : String :=
  String.join (lineWrites (tableLines t))

/-- A text, and a line feed where it does not end in one. -/
def closedWrites (text : String) : List String :=
  if text.toList.getLast? = some '\n' then [text] else [text, "\n"]

/-- Free text. -/
def preformattedWrites (text : String) (delimited : Bool) : List String :=
  if delimited then "--- BEGIN ---\n" :: closedWrites text ++ ["--- END ---\n\n"]
  else closedWrites text

/-- The encoder of plain text. -/
def encoder : Encoder where
  format := .text
  headWrites m := [m.banner, "\n\n"]
  headingWrites title _ _ := [title, "\n\n"]
  tableWrites t := lineWrites (tableLines t)
  footerWrites _ := ["\n"]
  preformattedWrites := preformattedWrites
  tailWrites _ := []

end Plain

end AdapterReport
