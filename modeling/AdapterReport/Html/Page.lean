import AdapterReport.Encoder.Basic
import AdapterReport.Encoder.Plain
import AdapterReport.Html.Markup
import AdapterReport.Table.Grid

/-!
# The page

A report as one page of its own. A section with an id has a link that folds it; its heading opens
the block that its footer closes.
-/

namespace AdapterReport.Html

open Quotes (single double)

/-! ## The head of the page -/

/-- The style of the tables. -/
def styleText : String :=
  "\n      table \x7b border-collapse: collapse; \x7d\n" ++
  "      th, td \x7b text-align: left; border: 1px solid black; \x7d\n" ++
  "      table.vert th \x7b text-align: right; \x7d\n" ++
  "      td > pre \x7b margin: 0; \x7d\n    "

/-- The script that folds and unfolds a section. -/
def scriptText : String :=
  "\n    function toggle(id) \x7b\n" ++
  "      var obj = document.getElementById(id+'_c');\n" ++
  "      var lnk = document.getElementById(id+'_l');\n" ++
  "      if ( obj ) \x7b\n" ++
  "        if ( obj.style.display == 'block' ) \x7b\n" ++
  "          obj.style.display = 'none';\n" ++
  "          lnk.innerHTML = ' ...Show';\n" ++
  "        \x7d else \x7b\n" ++
  "          obj.style.display = 'block';\n" ++
  "          lnk.innerHTML = ' Hide...';\n" ++
  "        \x7d\n      \x7d\n    \x7d\n    "

/-- The declaration of the page's language. -/
def declaration : String :=
  "DOCTYPE HTML PUBLIC \"-//W3C//DTD HTML 4.01//EN\" \"http://www.w3.org/TR/html4/strict.dtd\""

/-- What stands before the first section. -/
def headPieces (m : Metadata) : List Piece :=
  [.declaration declaration, .fixed "\n", tag "html", .fixed "\n  ", tag "head", .fixed "\n    "]
    ++ element "title" [.inserted m.title] ++ [.fixed "\n    ",
      .openTag "meta" [⟨"name", double, [.fixed "generator"]⟩,
        ⟨"content", double, [.fixed "sfreport"]⟩],
      .fixed "\n    ",
      .openTag "style" [⟨"type", double, [.fixed "text/css"]⟩], .fixed styleText,
      .closeTag "style", .fixed "\n    "]
    ++ element "script" [.fixed scriptText] ++ [.fixed "\n  ",
      .closeTag "head", .fixed "\n  ", tag "body", .fixed "\n    "]
    ++ element "h1" [.inserted m.banner] ++ [.fixed "\n    ",
      .inserted m.date, .fixed " (", .inserted m.user, .fixed ")\n    ", tag "hr", .fixed "\n"]

/-- What stands behind the last section. -/
def tailPieces : List Piece :=
  [.fixed "  ", .closeTag "body", .fixed "\n", .closeTag "html", .fixed "\n"]

/-! ## Sections -/

/-- The style that draws no border. -/
def noBorder : Attribute :=
  ⟨"style", single, [.fixed "border:none;"]⟩

/-- What the block of a section does with its contents. -/
def displayText (collapsed : Bool) : String :=
  if collapsed then "display:none" else "display:block"

/-- What the folding link of a section says. -/
def linkText (collapsed : Bool) : String :=
  if collapsed then " ...Show" else " Hide..."

/-- A call that folds or unfolds the section with this id. -/
def toggleCall (id after : String) : Attribute :=
  ⟨"onclick", single, [.fixed "toggle(\"", .inserted id, .fixed ("\");" ++ after)]⟩

/-- A reference to the section with this id. -/
def reference (id : String) : Attribute :=
  ⟨"href", single, [.fixed "#", .inserted id]⟩

/-- The heading of a section. With an id it opens the block that folds. -/
def headingPieces (title : String) (id : Option String) (collapsed : Bool) : List Piece :=
  match id with
  | none => [.fixed "    "] ++ element "h2" [.inserted title] ++ [.fixed "\n"]
  | some id =>
    [.openTag "table" [⟨"rows", .none, [.fixed "1"]⟩, ⟨"cols", .none, [.fixed "2"]⟩, noBorder],
      .fixed "\n", .openTag "tr" [noBorder],
      .fixed "\n", .openTag "td" [noBorder],
      .fixed "\n", .openTag "a" [⟨"name", single, [.inserted id]⟩]]
      ++ element "h2" [.inserted title] ++
    [.closeTag "a", .closeTag "td",
      .fixed "\n", .openTag "td" [noBorder],
      .fixed "\n", .openTag "a" [⟨"id", single, [.inserted id, .fixed "_l"]⟩, reference id,
        toggleCall id " return false;"],
      .fixed (linkText collapsed), .closeTag "a",
      .fixed "\n", .closeTag "td", .closeTag "tr", .closeTag "table",
      .fixed "\n", .openTag "div" [⟨"style", single, [.fixed (displayText collapsed)]⟩,
        ⟨"id", single, [.inserted id, .fixed "_c"]⟩],
      .fixed "\n"]

/-- What closes the block that the heading has opened. -/
def footerPieces : Option String → List Piece
  | none => []
  | some id =>
    [.openTag "a" [reference id, toggleCall id ""], .fixed "Hide ", .inserted id, .closeTag "a",
      tag "br", .fixed "\n", .closeTag "div", .fixed "\n"]

/-- Free text. -/
def preformattedPieces (text : String) : List Piece :=
  [.fixed "    "] ++ element "pre" [.inserted text] ++ [.fixed "\n"]

/-! ## Tables -/

/-- A cell on a line of its own. -/
def cellPieces (preformatted : Bool) (c : GridCell) : List Piece :=
  [.fixed "        "]
    ++ (if c.isHead then element "th" [.inserted c.text]
      else element "td"
        (if preformatted then element "pre" [.inserted c.text] else [.inserted c.text]))
    ++ [.fixed "\n"]

/-- The note that a table has no rows, in a cell with these attributes. -/
def nonePieces (attributes : List Attribute) : List Piece :=
  [.openTag "td" attributes] ++ element "em" [.fixed noneFound] ++ [.closeTag "td"]

/-- How many lines or columns a cell covers. -/
def span (name : String) (count : Nat) : Attribute :=
  ⟨name, double, [.fixed (Text.decimalPadded 1 count)]⟩

/-- A line of the grid between its tags, with something more at its end. -/
def linePieces (cells extra : List Piece) : List Piece :=
  [.fixed "      ", tag "tr", .fixed "\n"] ++ cells ++ extra
    ++ [.fixed "      ", .closeTag "tr", .fixed "\n"]

/-- The note in the first line of a vertical table without rows; it covers all lines. -/
def firstLineNote (t : Table) : List Piece :=
  if t.orientation = .vertical && t.isEmpty then
    [.fixed "        "] ++ nonePieces [span "rowspan" t.attributes.length] ++ [.fixed "\n"]
  else []

/-- The note below the lines of a table without rows, unless its first line has it. -/
def lastNote (t : Table) : List Piece :=
  if !t.isEmpty then []
  else if t.attributes.isEmpty then
    [.fixed "      ", tag "tr"] ++ nonePieces [] ++ [.closeTag "tr", .fixed "\n"]
  else if t.orientation = .horizontal then
    linePieces
      ([.fixed "        "] ++ nonePieces [span "colspan" t.attributes.length] ++ [.fixed "\n"]) []
  else []

/-- The lines of a table. -/
def gridPieces (t : Table) : List Piece :=
  let cells (line : List GridCell) := line.flatMap (cellPieces (t.valueStyle = .preformatted))
  match t.grid.lines with
  | [] => []
  | first :: rest =>
    linePieces (cells first) (firstLineNote t)
      ++ rest.flatMap fun line => linePieces (cells line) []

/-- A table. -/
def tablePieces (t : Table) : List Piece :=
  [.fixed "    ",
    .openTag "table" [⟨"class", double, [.fixed t.orientation.styleClass]⟩], .fixed "\n"]
    ++ gridPieces t ++ lastNote t ++ [.fixed "    ", .closeTag "table", .fixed "\n"]

/-- The encoder of pages. -/
def encoder : Encoder where
  format := .html
  headWrites m := writes (headPieces m)
  headingWrites title id collapsed := writes (headingPieces title id collapsed)
  tableWrites t := writes (tablePieces t)
  footerWrites id := writes (footerPieces id)
  preformattedWrites text _ := writes (preformattedPieces text)
  tailWrites _ := writes tailPieces

end AdapterReport.Html
