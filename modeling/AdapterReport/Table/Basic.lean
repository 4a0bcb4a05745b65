import AdapterReport.Table.Cell
import AdapterReport.Text.LowerCase

/-!
# Tables

A `Table` has a title, attributes in order and rows in order. It is not tied to a way of drawing:
the orientation and the style of its values are wishes that each encoder follows in its own way.
-/

namespace AdapterReport

/-- How attributes lie in the drawn table. -/
inductive Orientation where
  /-- Attributes are the heads of columns, a row is a line. -/
  | horizontal
  /-- Attributes are the heads of lines, a row is a column. -/
  | vertical
  deriving DecidableEq

namespace Orientation

/-- The name of an orientation. -/
def name : Orientation → String
  | .horizontal => "horizontal"
  | .vertical => "vertical"

/-- The orientation with exactly this name. -/
def ofName? (s : String) : Option Orientation :=
  [horizontal, vertical].find? (·.name == s)

/-- The style class of a drawn table. -/
def styleClass : Orientation → String
  | .horizontal => "horiz"
  | .vertical => "vert"

end Orientation

/-- How values are presented. -/
inductive ValueStyle where
  | plain
  /-- As blocks whose line breaks and spaces stay, such as the output of a command. -/
  | preformatted
  deriving DecidableEq

namespace ValueStyle

/-- The name of a style. -/
def name : ValueStyle → String
  | .plain => "default"
  | .preformatted => "preformatted"

/-- The style with exactly this name. -/
def ofName? (s : String) : Option ValueStyle :=
  [plain, preformatted].find? (·.name == s)

end ValueStyle

/-- A titled table of rows. -/
structure Table where
  title : String
  id : Option String
  attributes : List String
  rows : List Row
  orientation : Orientation
  valueStyle : ValueStyle

namespace Table

/-- A horizontal table of plain values without rows and without an id. -/
def titled (title : String) (attributes : List String) : Table :=
  ⟨title, none, attributes, [], .horizontal, .plain⟩

/-- Whether a table has no row. -/
def isEmpty (t : Table) : Bool :=
  t.rows.isEmpty

/-- The key of a table in every format: its id, or its title in lower case with underscores. -/
def key (t : Table) : String :=
  t.id.getD (Text.slug t.title)

/-- A table as a JSON value with all its parts. -/
def toJson (t : Table) : Json :=
  .object [
    ("title", .text t.title),
    ("id", Json.ofText? t.id),
    ("attributes", .array (t.attributes.map .text)),
    ("rows", .array (t.rows.map Row.toJson)),
    ("orientation", .text t.orientation.name),
    ("value_format", .text t.valueStyle.name)]

open Json.Reader in
/-- The fields of a table that has `depth` levels of brackets to go. -/
def fields (depth : Nat) : List (RecordField Table) :=
  [.of .required "title" text fun x t => { t with title := x },
    .of .nullable "id" (nullable text) fun x t => { t with id := x },
    .of .required "attributes" (list text) fun x t => { t with attributes := x },
    .of .required "rows" (list (Row.reader (depth - 2))) fun x t => { t with rows := x },
    .of .required "orientation" (variant Orientation.ofName?) fun x t =>
      { t with orientation := x },
    .of .required "value_format" (variant ValueStyle.ofName?) fun x t =>
      { t with valueStyle := x }]

/-- Reads a table. -/
def reader (depth : Nat) : Json.Reader Table :=
  Json.Reader.record (fields depth) (titled "" [])

end Table

end AdapterReport
