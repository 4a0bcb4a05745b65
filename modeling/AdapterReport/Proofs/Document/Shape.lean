import AdapterReport.Document
import AdapterReport.Proofs.Json.Members

/-!
# The shape of the structured document

`toJson_shape`: the members of the document are `report_info` and the keys of the sections, each in
the place where it came first. Under a key stands the last section with this key, and the metadata
under `report_info` if no section has that key. A table is its title and one record a row, whose
names are the attributes in the order in which they came first.

Where no section takes the key of another one or of the metadata, every section stands in the
document, in its place (`toJson_of_distinct`).
-/

namespace AdapterReport

open Json (gather)

/-! ## Records -/

/-- A record has one member for every attribute, however often the table has it. -/
theorem Section.record_eq (attributes : List String) (row : Row) :
    Section.record attributes row =
      .object (attributes.eraseDups.map fun a => (a, (row.get a).toJson)) := by
  rw [Section.record, Json.ofMembers_eq, Json.gather_map attributes fun a => (row.get a).toJson]

namespace Report

variable {m : Metadata} {sections : List Section}

/-! ## The members of the document -/

/-- The name of the metadata in the document. -/
def infoKey : String := "report_info"

/-- The members that are set one after the other. -/
def entries (r : Report) : List (String × Json) :=
  (infoKey, r.metadata.toJson) :: r.sections.map fun s => (s.key, s.toJson)

/-- The keys of the document, in their order. -/
def keys (r : Report) : List String :=
  (infoKey :: r.sections.map Section.key).eraseDups

/-- The last section with this key. -/
def lastSection? (r : Report) (key : String) : Option Section :=
  r.sections.reverse.find? (·.key == key)

/-- What stands under a key: the last section that has it, else the metadata. -/
def valueAt (r : Report) (key : String) : Json :=
  match r.lastSection? key with
  | some s => s.toJson
  | none => r.metadata.toJson

theorem map_fst_entries (r : Report) :
    r.entries.map (·.1) = infoKey :: r.sections.map Section.key := by
  rw [entries, List.map_cons, List.map_map]
  rfl

theorem lookup_sections (sections : List Section) (key : String) :
    (sections.map fun s => (s.key, s.toJson)).lookup key =
      (sections.find? (·.key == key)).map Section.toJson := by
  induction sections with
  | nil => rfl
  | cons s rest ih =>
    rw [List.map_cons, List.lookup_cons, List.find?_cons, BEq.comm]
    cases s.key == key with
    | true => rfl
    | false => exact ih

/-- A key that no section has is that of the metadata. -/
theorem eq_infoKey {r : Report} {key : String} (h : key ∈ r.keys)
    (hlast : r.lastSection? key = none) : key = infoKey := by
  rw [keys, List.mem_eraseDups] at h
  refine (List.mem_cons.mp h).resolve_right fun hmem => ?_
  obtain ⟨s, hs, rfl⟩ := List.mem_map.mp hmem
  have hne := List.find?_eq_none.mp hlast s (List.mem_reverse.mpr hs)
  exact hne (beq_self_eq_true s.key)

theorem lookup_entries (r : Report) {key : String} (h : key ∈ r.keys) :
    r.entries.reverse.lookup key = some (r.valueAt key) := by
  rw [entries, List.reverse_cons, List.lookup_append, ← List.map_reverse, lookup_sections, valueAt,
    ← lastSection?]
  cases hlast : r.lastSection? key with
  | some s => rfl
  | none => simp [eq_infoKey h hlast]

theorem toJson_eq (r : Report) :
    r.toJson = .object (r.keys.map fun key => (key, r.valueAt key)) := by
  have hentries : r.toJson = .object (gather r.entries) := rfl
  rw [hentries, Json.gather_eq, map_fst_entries]
  refine congrArg Json.object (List.map_congr_left fun key hkey => ?_)
  rw [lookup_entries r hkey]
  rfl

/-- **A document without collisions** has all sections in their order behind the metadata. -/
theorem toJson_of_distinct (h : (sections.map Section.key).Nodup)
    (hinfo : infoKey ∉ sections.map Section.key) :
    (Report.mk m sections).toJson =
      .object ((infoKey, m.toJson) :: sections.map fun s => (s.key, s.toJson)) := by
  have hentries : ((Report.mk m sections).entries.map (·.1)).Nodup := by
    rw [map_fst_entries, List.nodup_cons]
    exact ⟨hinfo, h⟩
  exact congrArg Json.object (Json.gather_of_nodup hentries)

/-- **The shape of the document**, whatever the keys and titles of the sections are. -/
theorem toJson_shape (m : Metadata) (sections : List Section) :
    let keys := ("report_info" :: sections.map Section.key).eraseDups
    let last (key : String) := sections.reverse.find? (·.key == key)
    (Report.mk m sections).toJson =
      .object (keys.map fun key => (key, match last key with
        | some s => s.toJson
        | none => m.toJson)) ∧
    keys.Nodup ∧
    (∀ key ∈ keys, last key = none → key = "report_info") ∧
    m.toJson = .object [("version", .text m.version), ("date", .text m.date),
      ("hostname", .text m.hostname), ("user", .text m.user)] ∧
    (∀ s : Section, s.key = match s.body with
      | .summary _ => "system_summary"
      | .table t => t.id.getD (Text.slug t.title)
      | .text title id _ _ => id.getD (Text.slug title)) ∧
    (∀ title, (Text.slug title).toList =
      (Text.lower title).toList.map fun c => if c = ' ' then '_' else c) ∧
    (∀ title : String, (∀ c ∈ title.toList, c.toNat < 128) → (Text.slug title).toList =
      title.toList.map fun c => if c = ' ' then '_' else c.toLower) ∧
    ∀ (t : Table) (collapsed : Bool),
      (Section.mk (.table t) collapsed).toJson = .object [("title", .text t.title),
        ("data", .array (t.rows.map fun row => .object (t.attributes.eraseDups.map fun a =>
          (a, match row.get a with
            | .text s => .text s
            | .number n => .number n.toInt
            | .absent => .null))))] ∧
      t.attributes.eraseDups.Nodup := by
  intro keys last
  refine ⟨(Report.mk m sections).toJson_eq, Json.nodup_eraseDups _,
    fun key hkey hlast => eq_infoKey (r := ⟨m, sections⟩) hkey hlast, rfl, fun s => ?_,
    Text.toList_slug, fun _ => Text.toList_slug_of_ascii,
    fun t collapsed => ⟨?_, Json.nodup_eraseDups _⟩⟩
  · obtain ⟨body, _⟩ := s
    cases body <;> rfl
  · have hrecord (row : Row) : Section.record t.attributes row = _ :=
      Section.record_eq t.attributes row
    show Json.object [("title", .text t.title), ("data", .array (t.rows.map _))] = _
    rw [funext hrecord]
    rfl

-- a key that comes again keeps its place and takes the later section
example (m : Metadata) :
    (Report.mk m [.ofText "First" (some "dup") "1" false,
      .ofText "Middle" (some "middle") "2" false,
      .ofText "Second" (some "dup") "3" false]).toJson =
    .object [("report_info", m.toJson),
      ("dup", .object [("title", .text "Second"), ("text", .text "3")]),
      ("middle", .object [("title", .text "Middle"), ("text", .text "2")])] := by
  rfl

end Report

end AdapterReport
