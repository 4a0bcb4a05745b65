import AdapterReport.Facts.Summary
import AdapterReport.Facts.Inventory

/-!
# Sections

A section is a table, the system summary or free text. Its key names it in the structured document
and in the list of sections that start folded.
-/

namespace AdapterReport

/-- What a section holds. -/
inductive Body where
  | table (t : Table)
  | summary (s : Summary)
  /-- Free text; `delimited` asks for marks around it in plain text. -/
  | text (title : String) (id : Option String) (text : String) (delimited : Bool)

/-- One section of a report. -/
structure Section where
  body : Body
  /-- Whether the section starts folded on a page. -/
  collapsed : Bool

namespace Section

/-- A table as a section. -/
def ofTable (t : Table) : Section := ⟨.table t, false⟩

/-- The summary as a section. -/
def ofSummary (s : Summary) : Section := ⟨.summary s, false⟩

/-- Free text as a section. -/
def ofText (title : String) (id : Option String) (text : String) (delimited : Bool) : Section :=
  ⟨.text title id text delimited, false⟩

/-- The title of a section. -/
def title (s : Section) : String :=
  match s.body with
  | .table t => t.title
  | .summary _ => Summary.title
  | .text title _ _ _ => title

/-- The id of a section, by which a page can fold it. -/
def id (s : Section) : Option String :=
  match s.body with
  | .table t => t.id
  | .summary _ => none
  | .text _ id _ _ => id

/-- The key of a section. -/
def key (s : Section) : String :=
  match s.body with
  | .table t => t.key
  | .summary _ => Summary.key
  | .text title id _ _ => id.getD (Text.slug title)

/-- A row as a record of the attributes of its table. -/
def record (attributes : List String) (row : Row) : Json :=
  .ofMembers (attributes.map fun a => (a, (row.get a).toJson))

/-- A section as a JSON value. -/
def toJson (s : Section) : Json :=
  match s.body with
  | .table t => .object [
      ("title", .text t.title),
      ("data", .array (t.rows.map (record t.attributes)))]
  | .summary s => s.toJson
  | .text title _ text _ => .object [("title", .text title), ("text", .text text)]

end Section

end AdapterReport
