import AdapterReport.Encoder.Select
import AdapterReport.Proofs.Assembler.Streaming
import AdapterReport.Proofs.Document.Shape
import AdapterReport.Proofs.Json.RoundTrip
import AdapterReport.Proofs.Table.RoundTrip
import AdapterReport.Proofs.Text.Utf8

/-!
# Nothing is lost in the structured document

`document_lossless`: the bytes that a `finish` writes of a report are a text, and a reader that
keeps the order of members reads it as the value of the report. So where no section takes the key of
another one and no table has an attribute twice, `DocumentView.ofBytes?` finds every key in its
place, and of every table its title and all cells of all rows, each of its own kind.

The value of every report is `Exact`: its numbers are those of cells and of memory, which have 64
bits, and its objects have no name twice, those of records and of the document because a name that
comes again is replaced.
-/

namespace AdapterReport

open Json (Exact FitsWord exact_array exact_object exact_ofMembers fitsWord_of_lt fitsWord_toInt)
open Text.Utf8 (encode)

/-! ## The values of a report are exact -/

theorem Json.exact_ofText? (text : Option String) : Exact (Json.ofText? text) := by
  cases text <;> trivial

theorem Cell.exact_toJson (c : Cell) : Exact c.toJson := by
  cases c with
  | text s => trivial
  | absent => trivial
  | number n => exact fitsWord_toInt n

theorem Memory.exact_toJson (m : Memory) : Exact m.toJson := by
  have hfits (n : UInt64) : FitsWord n.toNat := fitsWord_of_lt n.toNat_lt_size
  refine exact_object (by decide : ["total_physical_mb", "free_physical_mb"].Nodup) ?_
  simp only [List.forall_mem_cons]
  exact ⟨hfits m.totalMb, hfits m.freeMb, nofun⟩

theorem Summary.exact_toJson (s : Summary) : Exact s.toJson := by
  refine exact_object (by decide : ["os_name", "version", "architecture", "system_name",
    "kernel_command_line", "distribution", "memory"].Nodup) ?_
  simp only [List.forall_mem_cons]
  refine ⟨trivial, trivial, trivial, trivial, Json.exact_ofText? _, Json.exact_ofText? _, ?_, nofun⟩
  cases s.memory with
  | none => trivial
  | some m => exact m.exact_toJson

theorem Section.exact_record (attributes : List String) (row : Row) :
    Exact (Section.record attributes row) := by
  refine exact_ofMembers fun m hm => ?_
  obtain ⟨a, -, rfl⟩ := List.mem_map.mp hm
  exact (row.get a).exact_toJson

theorem Section.exact_toJson (s : Section) : Exact s.toJson := by
  unfold Section.toJson
  cases s.body with
  | table t =>
    refine exact_object (by decide : ["title", "data"].Nodup) ?_
    simp only [List.forall_mem_cons]
    refine ⟨trivial, exact_array fun v hv => ?_, nofun⟩
    obtain ⟨row, -, rfl⟩ := List.mem_map.mp hv
    exact Section.exact_record t.attributes row
  | summary s => exact s.exact_toJson
  | text title _ text _ =>
    refine exact_object (by decide : ["title", "text"].Nodup) ?_
    simp only [List.forall_mem_cons]
    exact ⟨trivial, trivial, nofun⟩

theorem Metadata.exact_toJson (m : Metadata) : Exact m.toJson := by
  refine exact_object (by decide : ["version", "date", "hostname", "user"].Nodup) ?_
  simp only [List.forall_mem_cons]
  exact ⟨trivial, trivial, trivial, trivial, nofun⟩

theorem Report.exact_toJson (r : Report) : Exact r.toJson := by
  refine exact_ofMembers fun m hm => ?_
  rcases List.mem_cons.mp hm with rfl | hm
  · exact r.metadata.exact_toJson
  · obtain ⟨s, -, rfl⟩ := List.mem_map.mp hm
    exact s.exact_toJson

/-! ## The text of a report -/

theorem tail_structured (r : Report) :
    Format.json.encoder.tail r = r.toJson.pretty ++ "\n" := by
  show String.join [r.toJson.pretty, "\n"] = _
  simp

/-- The structured document is all written at its end. -/
theorem document_structured (r : Report) :
    Format.json.encoder.document r = Format.json.encoder.tail r := by
  have hsection : Format.json.encoder.sectionText = fun _ => "" := by
    funext s
    obtain ⟨body, _⟩ := s
    cases body <;> rfl
  have hsections : String.join (r.sections.map fun _ => "") = "" := by
    induction r.sections with
    | nil => rfl
    | cons s rest ih => rw [List.map_cons, String.join_cons, ih]; rfl
  have hhead : Format.json.encoder.head r.metadata = "" := rfl
  rw [Encoder.document, hsection, hsections, hhead, String.empty_append, String.empty_append]

/-- **The text of a report is read as its value.** -/
theorem read_tail (r : Report) :
    Json.read Json.Reader.value (Format.json.encoder.tail r) = .ok r.toJson := by
  have hspace : "\n".toList.all Json.isSpace = true := by decide
  rw [tail_structured]
  exact Json.read_value_pretty r.exact_toJson (List.all_eq_true.mp hspace)

/-- What a successful `finish` of a structured document writes, over any sink. -/
theorem Assembler.finish_structured {a : Assembler} (h : a.Consistent) (hf : a.format = .json)
    (hok : a.finish.1 = .ok ()) :
    a.finish.2.sink.written =
      a.sink.written ++ encode (Format.json.encoder.tail a.report) := by
  have hbytes : Call.finish.output a = encode (Format.json.encoder.tail a.report) := by
    have hp : a.pendingBytes = [] := by
      rw [← output_begin]
      exact output_structured hf (by decide)
    rw [Call.output, hp, ← hf]
    rfl
  have he := effect_finish h
  generalize a.finish.1 = r, a.finish.2 = a' at he hok
  cases he with
  | closed hopen hfits hflush =>
    have hcovered : a.sink.covered (Call.finish.output a) = Call.finish.output a :=
      Sink.covered_of_fits hfits
    have hwritten := (Effect.closed hopen hfits hflush).written hopen
    rw [hwritten, Sink.accept_written, hcovered, hbytes]
  | added hc _ _ => cases hc
  | _ => cases hok

/-! ## What a reader finds -/

/-- The cell that a value of a record stands for. -/
def Cell.ofJson? : Json → Option Cell
  | .text s => some (.text s)
  | .number n => (Cell.int64? n).map .number
  | .null => some .absent
  | .bool _ | .array _ | .object _ => none

/-- What a reader finds of a table: its title, and the cells of each row behind their attributes. -/
structure TableView where
  title : String
  rows : List (List (String × Cell))
  deriving DecidableEq

/-- The cells of a record. -/
def TableView.row? : Json → Option (List (String × Cell))
  | .object members => members.mapM fun m => (Cell.ofJson? m.2).map (m.1, ·)
  | _ => none

/-- The table that a value of the document stands for. -/
def TableView.ofJson? : Json → Option TableView
  | .object [(title, .text s), (data, .array records)] =>
    if title = "title" ∧ data = "data" then (records.mapM row?).map (⟨s, ·⟩) else none
  | _ => none

/-- What a reader finds of a document: the keys behind the first one, each with the table that
stands under it. -/
abbrev DocumentView := List (String × Option TableView)

/-- What a reader finds in the value of a document. -/
def DocumentView.ofJson? : Json → Option DocumentView
  | .object (_ :: members) => some (members.map fun m => (m.1, TableView.ofJson? m.2))
  | _ => none

/-- What a reader finds in the bytes of a document. -/
def DocumentView.ofBytes? (bytes : List UInt8) : Option DocumentView :=
  (Text.Utf8.decode? bytes).bind fun text =>
    (Json.read Json.Reader.value text).toOption.bind ofJson?

theorem Cell.ofJson?_toJson (c : Cell) : Cell.ofJson? c.toJson = some c := by
  cases c with
  | text s => rfl
  | absent => rfl
  | number n =>
    rw [Cell.toJson, Cell.ofJson?, Cell.int64?_toInt]
    rfl

theorem mapM_eq_some {α β : Type} {f : α → Option β} {g : α → β} {xs : List α}
    (h : ∀ x ∈ xs, f x = some (g x)) : xs.mapM f = some (xs.map g) := by
  induction xs with
  | nil => rfl
  | cons x xs ih =>
    rw [List.forall_mem_cons] at h
    rw [List.mapM_cons, h.1, ih h.2]
    rfl

theorem TableView.row?_record {attributes : List String} (h : attributes.Nodup) (row : Row) :
    row? (Section.record attributes row) = some (attributes.map fun a => (a, row.get a)) := by
  rw [Section.record_eq, Json.eraseDups_of_nodup h, row?, List.mapM_map]
  refine mapM_eq_some fun a _ => ?_
  rw [Function.comp_apply, Cell.ofJson?_toJson]
  rfl

/-- The table of a section, as a reader finds it. -/
def Section.tableView? (s : Section) : Option TableView :=
  match s.body with
  | .table t => some ⟨t.title, t.rows.map fun row => t.attributes.map fun a => (a, row.get a)⟩
  | .summary _ | .text _ _ _ _ => none

theorem TableView.ofJson?_toJson {s : Section}
    (h : ∀ t, s.body = .table t → t.attributes.Nodup) : ofJson? s.toJson = s.tableView? := by
  unfold Section.toJson Section.tableView?
  cases hbody : s.body with
  | table t =>
    have hrows : (t.rows.map (Section.record t.attributes)).mapM row? =
        some (t.rows.map fun row => t.attributes.map fun a => (a, row.get a)) := by
      rw [List.mapM_map]
      exact mapM_eq_some fun row _ => row?_record (h t hbody) row
    simp only [ofJson?, and_self, if_true, hrows, Option.map_some]
  | summary s => rfl
  | text title _ text _ => simp [ofJson?]

/-- **Nothing is lost**: what a `finish` writes of a report is the text of its value, which a reader
that keeps the order of members reads as that value. Where keys and attributes do not repeat, every
key, title and cell is found. -/
theorem document_lossless (r : Report) :
    let text := Format.json.encoder.tail r
    (∀ a : Assembler, a.Consistent → a.format = .json → a.report = r → a.finish.1 = .ok () →
      a.finish.2.sink.written = a.sink.written ++ encode text) ∧
    Text.Utf8.decode? (encode text) = some text ∧
    Json.read Json.Reader.value text = .ok r.toJson ∧
    ((r.sections.map Section.key).Nodup → "report_info" ∉ r.sections.map Section.key →
      (∀ s ∈ r.sections, ∀ t, s.body = .table t → t.attributes.Nodup) →
      DocumentView.ofBytes? (encode text) = some (r.sections.map fun s => (s.key, match s.body with
        | .table t =>
          some ⟨t.title, t.rows.map fun row => t.attributes.map fun a => (a, row.get a)⟩
        | .summary _ | .text _ _ _ _ => none))) := by
  intro text
  have hdecode : Text.Utf8.decode? (encode text) = some text := Text.Utf8.decode?_encode text
  refine ⟨?_, hdecode, read_tail r, fun hkeys hinfo hattributes => ?_⟩
  · rintro a h hf rfl hok
    exact Assembler.finish_structured h hf hok
  have hviews : r.sections.map (fun s => (s.key, TableView.ofJson? s.toJson)) =
      r.sections.map fun s => (s.key, s.tableView?) :=
    List.map_congr_left fun s hs => by rw [TableView.ofJson?_toJson (hattributes s hs)]
  have hvalue : Json.read Json.Reader.value text = _ :=
    (read_tail r).trans (congrArg Except.ok (Report.toJson_of_distinct hkeys hinfo))
  rw [DocumentView.ofBytes?, hdecode, Option.bind_some, hvalue, Except.toOption, Option.bind_some,
    DocumentView.ofJson?, List.map_map]
  exact congrArg some hviews

/-- Texts that look like a number, a missing value or a part of the document are found as they
were. -/
theorem document_lossless_mixed :
    let attributes := ["a", "b", "c", "d", "e", "f"]
    let cells : List Cell :=
      [.text "5", .number 5, .text "<N/A>", .text "", .text "\x01\"\\\n", .number Int64.minValue]
    let table : Table :=
      { Table.titled "Mixed" (attributes ++ ["g"]) with
        id := some "mixed"
        rows := [.ofValues attributes cells] }
    let report : Report := ⟨⟨"", "", "", "", "", 0⟩, [.ofTable table]⟩
    DocumentView.ofBytes? (encode (Format.json.encoder.tail report)) =
      some [("mixed", some ⟨"Mixed", [attributes.zip cells ++ [("g", .absent)]]⟩)] := by
  intro attributes cells table report
  have hattributes : ∀ s ∈ report.sections, ∀ t, s.body = .table t → t.attributes.Nodup := by
    intro s hs t ht
    rw [List.mem_singleton.mp hs] at ht
    cases ht
    decide
  exact ((document_lossless report).2.2.2 (by decide) (by decide) hattributes).trans
    (by decide +kernel)

-- a text, a number and a missing value are kept apart, and no space is needed between them
example : DocumentView.ofBytes? (encode
    ("\x7b\"report_info\":\x7b\x7d,\"a\":\x7b\"title\":\"T\",\"data\":" ++
      "[\x7b\"x\":\"5\",\"y\":5,\"z\":null\x7d]\x7d\x7d")) =
    some [("a", some ⟨"T", [[("x", .text "5"), ("y", .number 5), ("z", .absent)]]⟩)] := by
  decide +kernel

end AdapterReport
