import AdapterReport.Proofs.Assembler.Lifecycle
import AdapterReport.Proofs.Document.Lossless

/-!
# The metadata in the structured document

The first member of the document is always that of the metadata (`exists_members`). Its value is the
metadata as long as no section has the same key, and that of such a section otherwise
(`valueAt_infoKey_iff`): a section comes to this key by its id or by its title.

`info_of_run` says this of the text that `finish` writes behind any run, and `info_replaced` is a
run in which a title takes the place of the metadata.
-/

namespace AdapterReport

open Text.Utf8 (encode)

/-- No section has the value of metadata: their first members have other names. -/
theorem Section.toJson_ne_metadata (s : Section) (m : Metadata) : s.toJson ≠ m.toJson := by
  have hfirst : ∃ name value rest, s.toJson = .object ((name, value) :: rest) ∧
      name ≠ "version" := by
    obtain ⟨body, _⟩ := s
    cases body with
    | table t => exact ⟨"title", _, _, rfl, by decide⟩
    | summary s => exact ⟨"os_name", _, _, rfl, by decide⟩
    | text title _ text _ => exact ⟨"title", _, _, rfl, by decide⟩
  obtain ⟨name, value, rest, hs, hname⟩ := hfirst
  intro h
  rw [hs, Metadata.toJson] at h
  obtain ⟨hhead, -⟩ := List.cons.inj (Json.object.inj h)
  exact hname (Prod.mk.inj hhead).1

namespace Report

/-- **The first member of the document** is that of the metadata. -/
theorem exists_members (r : Report) :
    ∃ rest, r.toJson = .object ((infoKey, r.valueAt infoKey) :: rest) := by
  rw [toJson_eq, keys, List.eraseDups_cons, List.map_cons]
  exact ⟨_, rfl⟩

/-- **The metadata has its place** exactly if no section has the same key. -/
theorem valueAt_infoKey_iff (r : Report) :
    r.valueAt infoKey = r.metadata.toJson ↔ ∀ s ∈ r.sections, s.key ≠ infoKey := by
  have hnone : r.lastSection? infoKey = none ↔ ∀ s ∈ r.sections, s.key ≠ infoKey := by
    simp [lastSection?]
  rw [← hnone, valueAt]
  cases r.lastSection? infoKey with
  | none => exact ⟨fun _ => rfl, fun _ => rfl⟩
  | some s =>
    exact ⟨fun h => absurd h (s.toJson_ne_metadata r.metadata),
      fun h => absurd h (Option.some_ne_none s)⟩

end Report

namespace Assembler

/-- The report behind a run has the metadata that it began with and the sections that were added. -/
theorem report_run (sink : Sink) (format : Format) (m : Metadata) (settings : Settings)
    (events : List Event) :
    ((start sink format m settings).run events).report =
      ⟨m, ((start sink format m settings).log events).filterMap Answer.recorded?⟩ := by
  have hmetadata := (course_run sink format m settings events).metadata
  have hsections := recorded_run sink format m settings events
  generalize ((start sink format m settings).run events).report = report at hmetadata hsections
  cases report
  exact congr (congrArg Report.mk hmetadata) hsections

/-- **The metadata in a written document**: behind any run over any sink, the document that `finish`
writes begins with a member for the metadata, which shows it exactly if no section that was added
has the same key. -/
theorem info_of_run (sink : Sink) (m : Metadata) (settings : Settings) (events : List Event) :
    let a := (start sink .json m settings).run events
    let added := ((start sink .json m settings).log events).filterMap Answer.recorded?
    a.finish.1 = .ok () → ∃ text value rest,
      a.finish.2.sink.written = a.sink.written ++ encode text ∧
      Json.read Json.Reader.value text = .ok (.object (("report_info", value) :: rest)) ∧
      (value = m.toJson ↔ ∀ s ∈ added, s.key ≠ "report_info") := by
  intro a added hok
  have hconsistent := consistent_start sink .json m settings
  have hreport : a.report = ⟨m, added⟩ := report_run sink .json m settings events
  have hformat : a.format = .json := (unchanged_run hconsistent events).1
  have hinfo := Report.valueAt_infoKey_iff a.report
  obtain ⟨rest, hmembers⟩ := Report.exists_members a.report
  refine ⟨Format.json.encoder.tail a.report, a.report.valueAt Report.infoKey, rest,
    finish_structured (consistent_run hconsistent events) hformat hok, ?_, ?_⟩
  · rw [read_tail, hmembers, Report.infoKey]
  · rwa [hreport] at hinfo ⊢

/-- A section with a key of its own leaves the metadata in its place. -/
theorem info_of_run_kept :
    let m : Metadata := ⟨"T", "1", "today", "node1", "ROOT USER", 0⟩
    let events := Event.collecting false [.ofText "Report" none "x" false]
    let a := (start .unlimited .json m .default).run events
    a.finish.1 = .ok () ∧ ∃ text rest,
      a.finish.2.sink.written = a.sink.written ++ encode text ∧
      Json.read Json.Reader.value text = .ok (.object (("report_info", m.toJson) :: rest)) := by
  intro m events a
  have hok : a.finish.1 = .ok () :=
    (streamed_collecting .json m .default false [.ofText "Report" none "x" false]).1.finish.1
  obtain ⟨text, value, rest, hwritten, hread, hvalue⟩ :=
    info_of_run .unlimited m .default events hok
  have hkept : value = m.toJson := hvalue.mpr (by decide +kernel)
  exact ⟨hok, text, rest, hwritten, hkept ▸ hread⟩

/-- **A title takes the place of the metadata**: the key of a section with this title is that of the
metadata, and nothing of the metadata is left in the document. -/
theorem info_replaced :
    let m : Metadata := ⟨"T", "1", "today", "node1", "ROOT USER", 0⟩
    let s := Section.ofText "Report Info" none "x" false
    let start := Assembler.start .unlimited .json m .default
    (∀ x ∈ start.log (Event.whole false [s]), x.result = .ok ()) ∧
    ∃ text, (start.run (Event.whole false [s])).sink.written = encode text ∧
      Json.read Json.Reader.value text = .ok (.object [("report_info", s.toJson)]) ∧
      s.toJson ≠ m.toJson := by
  intro m s start
  obtain ⟨hok, -, hwritten⟩ := run_whole .json m .default false [s]
  have hvalue : (Settings.default.report m [s]).toJson = .object [("report_info", s.toJson)] := by
    rfl
  have hread := read_tail (Settings.default.report m [s])
  rw [document_structured] at hwritten
  rw [hvalue] at hread
  exact ⟨hok, _, hwritten, hread, s.toJson_ne_metadata m⟩

end Assembler

end AdapterReport
