import AdapterReport.Json.Printer
import AdapterReport.Json.Reader

/-!
# Cells and rows

A `Cell` is one value of a table. A `Row` maps the names of attributes to cells; it keeps them in
ascending order, so that two rows with the same cells are equal. Attributes that were never set
read as absent.
-/

namespace AdapterReport

/-- What is drawn for an absent value. -/
def notAvailable : String := "<N/A>"

/-- One value of a table. -/
inductive Cell where
  | text (s : String)
  | number (n : Int64)
  /-- No value is known. -/
  | absent
  deriving DecidableEq, Inhabited

namespace Cell

/-- The text of a value, if there is one. -/
def text? : Cell → Option String
  | .text s => some s
  | .number n => some (Json.integer n.toInt)
  | .absent => none

/-- The text that is drawn for a value. -/
def display (c : Cell) : String :=
  c.text?.getD notAvailable

/-- The cell of a text that may be missing. -/
def ofText? : Option String → Cell
  | some s => .text s
  | none => .absent

/-- A value in a JSON document. -/
def toJson : Cell → Json
  | .text s => .text s
  | .number n => .number n.toInt
  | .absent => .null

/-- An integer of 64 bits with a sign. -/
def int64? (n : Int) : Option Int64 :=
  if Int64.minValue.toInt ≤ n && n ≤ Int64.maxValue.toInt then some (Int64.ofInt n) else none

/-- Reads a cell that has less than `depth` brackets around each other in it: the value has to be
sound before it is refused for its kind. -/
def reader (depth : Nat) : Json.Reader Cell := fun d => do
  Json.Reader.sound depth d
  match d with
  | .null => return .absent
  | .text scan => return .text (← scan.text)
  | .number _ => return .number (← Json.Reader.integer int64? d)
  | _ => .error .mismatched

end Cell

/-- Cells by the names of their attributes. -/
structure Row where
  /-- The attributes that were set, in ascending order. -/
  entries : List (String × Cell)
  sorted : entries.Pairwise (fun a b => a.1 < b.1)

namespace Row

/-- Sets the cell of an attribute in a sorted list. -/
def insert (name : String) (cell : Cell) : List (String × Cell) → List (String × Cell)
  | [] => [(name, cell)]
  | (n, c) :: rest =>
    if name < n then (name, cell) :: (n, c) :: rest
    else if n < name then (n, c) :: insert name cell rest
    else (name, cell) :: rest

theorem fst_mem_insert {name : String} {cell : Cell} {l : List (String × Cell)}
    {e : String × Cell} (h : e ∈ insert name cell l) : e.1 = name ∨ e ∈ l := by
  induction l with
  | nil => simp_all [insert]
  | cons x rest ih => grind [insert]

theorem pairwise_insert {name : String} {cell : Cell} {l : List (String × Cell)}
    (h : l.Pairwise (fun a b => a.1 < b.1)) :
    (insert name cell l).Pairwise (fun a b => a.1 < b.1) := by
  induction l with
  | nil => simp [insert]
  | cons x rest ih =>
    rw [List.pairwise_cons] at h
    have hrest := ih h.2
    have hmem : ∀ e ∈ insert name cell rest, e.1 = name ∨ e ∈ rest := fun _ => fst_mem_insert
    grind [insert, List.pairwise_cons]

/-- The row without any cell. -/
def empty : Row := ⟨[], .nil⟩

/-- Sets the cell of an attribute. -/
def set (r : Row) (name : String) (cell : Cell) : Row :=
  ⟨insert name cell r.entries, pairwise_insert r.sorted⟩

/-- The cell of an attribute, absent if it was never set. -/
def get (r : Row) (name : String) : Cell :=
  ((r.entries.find? (·.1 == name)).map (·.2)).getD .absent

/-- Sets cells one after the other. -/
def ofList (cells : List (String × Cell)) : Row :=
  cells.foldl (fun r c => r.set c.1 c.2) empty

/-- The row whose values belong to the attributes in their order. Values without an attribute are
dropped, attributes without a value stay absent. -/
def ofValues (attributes : List String) (values : List Cell) : Row :=
  ofList (attributes.zip values)

/-- A row in a JSON document. -/
def toJson (r : Row) : Json :=
  .object [("values", .object (r.entries.map fun e => (e.1, e.2.toJson)))]

/-- The fields of a row. -/
def fields (depth : Nat) : List (Json.Reader.RecordField Row) :=
  [.of .required "values" (Json.Reader.map (Cell.reader (depth - 2))) fun cells _ => ofList cells]

/-- Reads a row that has `depth` levels of brackets to go. -/
def reader (depth : Nat) : Json.Reader Row :=
  Json.Reader.record (fields depth) empty

end Row

end AdapterReport
