import AdapterReport.Document
import AdapterReport.Format

/-!
# Encoders

An `Encoder` writes the parts of a report in one format: for every part it gives the texts that go
to the sink one after the other, so that a sink can refuse between any two of them. A section is its
heading, its body and its footer, in every format.
-/

namespace AdapterReport

/-- How the parts of a report are written. -/
structure Encoder where
  format : Format
  /-- What stands before the first section. -/
  headWrites : Metadata → List String
  /-- The heading of a section with a title and perhaps an id; a section with an id can start
  folded. -/
  headingWrites : String → Option String → Bool → List String
  tableWrites : Table → List String
  /-- What closes a section with the id that its heading had. -/
  footerWrites : Option String → List String
  /-- Free text, perhaps with marks around it. -/
  preformattedWrites : String → Bool → List String
  /-- What stands behind the last section. -/
  tailWrites : Report → List String

namespace Encoder

/-- The writes of the body of a section. -/
def bodyWrites (e : Encoder) : Body → List String
  | .table t => e.tableWrites t
  | .summary s => e.tableWrites s.table
  | .text _ _ text delimited => e.preformattedWrites text delimited

/-- The writes of a section. -/
def sectionWrites (e : Encoder) (s : Section) : List String :=
  e.headingWrites s.title s.id s.collapsed ++ e.bodyWrites s.body ++ e.footerWrites s.id

/-! ## The text of each part -/

/-- What stands before the first section. -/
def head (e : Encoder) (m : Metadata) : String :=
  String.join (e.headWrites m)

/-- The heading of a section. -/
def heading (e : Encoder) (title : String) (id : Option String) (collapsed : Bool) : String :=
  String.join (e.headingWrites title id collapsed)

/-- A table. -/
def table (e : Encoder) (t : Table) : String :=
  String.join (e.tableWrites t)

/-- What closes a section. -/
def footer (e : Encoder) (id : Option String) : String :=
  String.join (e.footerWrites id)

/-- Free text. -/
def preformatted (e : Encoder) (text : String) (delimited : Bool) : String :=
  String.join (e.preformattedWrites text delimited)

/-- The body of a section. -/
def body (e : Encoder) (b : Body) : String :=
  String.join (e.bodyWrites b)

/-- A section. -/
def sectionText (e : Encoder) (s : Section) : String :=
  String.join (e.sectionWrites s)

/-- What stands behind the last section. -/
def tail (e : Encoder) (r : Report) : String :=
  String.join (e.tailWrites r)

/-- A section is its heading, its body and its footer. -/
theorem sectionText_eq (e : Encoder) (s : Section) :
    e.sectionText s = e.heading s.title s.id s.collapsed ++ e.body s.body ++ e.footer s.id := by
  simp [sectionText, sectionWrites, heading, body, footer, String.append_assoc]

end Encoder

end AdapterReport
