import AdapterReport.Proofs.Document.Lossless
import AdapterReport.Proofs.Host.Shown
import AdapterReport.Proofs.Html.Headings

/-!
# The order of the sections

A full report has four places, and a section stands in its place if it is set to be shown and there
is something to show (`HostFacts.slots`); the inventory has one table of its own.
`sections_in_order`: these are the sections that are recorded, over any sink, and what is written in
each format has them in this order. The keys of the places differ from each other and from that of
the metadata, so the structured document has all sections.
-/

namespace AdapterReport

open Text.Utf8 (encode)

/-! ## Places -/

/-- A place in the order of the sections: the key and the title of what stands there, and what it is
if it is shown. -/
structure Slot where
  key : String
  title : String
  content : Option Section

namespace HostFacts

/-- The places of a full report in their order. -/
def slots (facts : HostFacts) (shown : ShownSections) : List Slot :=
  [⟨"system_summary", "System Summary",
      if shown.summary then facts.summary.map .ofSummary else none⟩,
    ⟨"uptime", "System Uptime",
      if shown.uptime then
        facts.uptime.map fun text => .ofText "System Uptime" (some "uptime") text false
      else none⟩,
    ⟨"pci_device_sfc", "AMD Solarflare PCI devices",
      if shown.devices then some (.ofTable (Device.table facts.devices)) else none⟩,
    ⟨"network_interfaces", "Network interfaces for AMD Solarflare adapters",
      if shown.interfaces then some (.ofTable (Interface.table facts.interfaces)) else none⟩]

/-- The sections of a full report are those that stand in its places. -/
theorem sections_eq (facts : HostFacts) (settings : Settings) {format : Format}
    (h : format ≠ .minimal) :
    facts.sections settings format = (facts.slots settings.sections).filterMap Slot.content := by
  have hslot (slot : Slot) (rest : List Slot) : (slot :: rest).filterMap Slot.content =
      slot.content.toList ++ rest.filterMap Slot.content := by
    cases hc : slot.content <;> simp [hc]
  have hshown (b : Bool) (s : Option Section) :
      (if b then s else none).toList = if b then s.toList else [] := by
    cases b <;> rfl
  rw [sections, if_neg h]
  simp only [slots, hslot, hshown, List.filterMap_nil, List.append_nil, List.append_assoc,
    Option.toList_some]

/-- Whether a section stands in its place: it is set to be shown, and the fact is there. -/
theorem slots_present (facts : HostFacts) (shown : ShownSections) :
    (facts.slots shown).map (fun slot => (slot.key, slot.content.isSome)) =
      [("system_summary", shown.summary && facts.summary.isSome),
        ("uptime", shown.uptime && facts.uptime.isSome),
        ("pci_device_sfc", shown.devices), ("network_interfaces", shown.interfaces)] := by
  have hshown (b : Bool) (s : Option Section) :
      (if b then s else none).isSome = (b && s.isSome) := by
    cases b <;> rfl
  simp [slots, hshown]

/-- A section has the key and the title of its place. -/
theorem slots_named {facts : HostFacts} {shown : ShownSections} {slot : Slot} {s : Section}
    (hslot : slot ∈ facts.slots shown) (hs : slot.content = some s) :
    s.key = slot.key ∧ s.title = slot.title := by
  simp only [slots, List.mem_cons, List.not_mem_nil, or_false] at hslot
  rcases hslot with rfl | rfl | rfl | rfl <;>
    obtain ⟨-, hs⟩ := Option.ite_none_right_eq_some.mp hs
  · obtain ⟨summary, -, rfl⟩ := Option.map_eq_some_iff.mp hs
    exact ⟨rfl, rfl⟩
  · obtain ⟨text, -, rfl⟩ := Option.map_eq_some_iff.mp hs
    exact ⟨rfl, rfl⟩
  · cases hs
    exact ⟨rfl, rfl⟩
  · cases hs
    exact ⟨rfl, rfl⟩

/-- No title of a place has a character that means something in a page. -/
theorem slots_escape (facts : HostFacts) (shown : ShownSections) :
    ∀ slot ∈ facts.slots shown, (Html.escape ∘ Slot.title) slot = slot.title := by
  simp only [slots, List.forall_mem_cons, Function.comp_apply]
  exact ⟨Html.escape_of_lacks (by decide), Html.escape_of_lacks (by decide),
    Html.escape_of_lacks (by decide), Html.escape_of_lacks (by decide), nofun⟩

/-- The keys of the places differ from each other and from that of the metadata. -/
theorem slots_distinct (facts : HostFacts) (shown : ShownSections) :
    (Report.infoKey :: (facts.slots shown).map Slot.key).Nodup := by
  show [Report.infoKey, "system_summary", "uptime", "pci_device_sfc", "network_interfaces"].Nodup
  decide

end HostFacts

/-- What goes by the places of the sections, of those that are there. -/
theorem map_filterMap_content {slots : List Slot} {f : Section → String} {g : Slot → String}
    (h : ∀ slot ∈ slots, ∀ s, slot.content = some s → f s = g slot) :
    (slots.filterMap Slot.content).map f = (slots.filter (·.content.isSome)).map g := by
  induction slots with
  | nil => rfl
  | cons slot rest ih =>
    rw [List.forall_mem_cons] at h
    cases hc : slot.content with
    | none => simp [hc, ih h.2]
    | some s => simp [hc, ih h.2, h.1 s hc]

/-! ## Documents -/

/-- A plain report is its banner and one section after the other, each behind its title. -/
theorem document_plain (r : Report) :
    Format.text.encoder.document r = r.metadata.banner ++ "\n\n" ++
      String.join (r.sections.map fun s =>
        s.title ++ "\n\n" ++ Format.text.encoder.body s.body ++ "\n") := by
  have hhead : Format.text.encoder.head r.metadata = r.metadata.banner ++ "\n\n" := by
    show String.join [_, _] = _
    simp
  have hsection : Format.text.encoder.sectionText =
      fun s => s.title ++ "\n\n" ++ Format.text.encoder.body s.body ++ "\n" := by
    funext s
    have hheading : Format.text.encoder.heading s.title s.id s.collapsed = s.title ++ "\n\n" := by
      show String.join [_, _] = _
      simp
    rw [Encoder.sectionText_eq, hheading]
    rfl
  have htail : Format.text.encoder.tail r = "" := rfl
  rw [Encoder.document, hhead, hsection, htail, String.append_empty]

/-! ## Reports -/

/-- **The sections of a report** are the same ones in the same order in every format but the
inventory, and what is written has them in this order. What is not shown makes no difference. -/
theorem sections_in_order (m : Metadata) (settings : Settings) (facts : HostFacts) :
    let shown := settings.sections
    let slots := facts.slots shown
    let present := slots.filter (·.content.isSome)
    let full := (slots.filterMap Slot.content).map settings.placed
    let inventory := Section.ofTable
      (Inventory.table settings.inventoryTitle facts.interfaces facts.devices)
    let recorded (format : Format) : List Section :=
      if format = .minimal then [settings.placed inventory] else full
    (∀ sink format,
      let o := writeReport sink format m settings facts
      o.2.report.sections <+: recorded format ∧
      (o.1 = .ok () → o.2.report.sections = recorded format) ∧
      (sink.budget = none → sink.refusesFlush = false →
        o.1 = .ok () ∧ o.2.sink.written =
          sink.written ++ encode (format.encoder.document ⟨m, recorded format⟩))) ∧
    slots.map (fun slot => (slot.key, slot.content.isSome)) =
      [("system_summary", shown.summary && facts.summary.isSome),
        ("uptime", shown.uptime && facts.uptime.isSome),
        ("pci_device_sfc", shown.devices), ("network_interfaces", shown.interfaces)] ∧
    full.map Section.key = present.map Slot.key ∧
    full.map Section.title = present.map Slot.title ∧
    (settings.placed inventory).key = "inventory" ∧
    (settings.placed inventory).title = settings.inventoryTitle ∧
    (settings.placed inventory).body = inventory.body ∧
    Format.text.encoder.document ⟨m, full⟩ = m.banner ++ "\n\n" ++ String.join (full.map fun s =>
      s.title ++ "\n\n" ++ Format.text.encoder.body s.body ++ "\n") ∧
    Html.headings (Format.html.encoder.document ⟨m, full⟩) = present.map Slot.title ∧
    Json.read Json.Reader.value (Format.json.encoder.document ⟨m, full⟩) =
      .ok (.object (("report_info", m.toJson) :: full.map fun s => (s.key, s.toJson))) ∧
    ∀ (format : Format) (facts' : HostFacts),
      let shown := settings.shownIn format
      (shown.summary = true → facts'.summary = facts.summary) →
      (shown.uptime = true → facts'.uptime = facts.uptime) →
      (shown.devices = true → facts'.devices = facts.devices) →
      (shown.interfaces = true → facts'.interfaces = facts.interfaces) →
      ∀ sink, writeReport sink format m settings facts' =
        writeReport sink format m settings facts := by
  intro shown slots present full inventory recorded
  have hkeys : full.map Section.key = present.map Slot.key := by
    rw [List.map_map]
    exact map_filterMap_content fun slot hslot s hs => (HostFacts.slots_named hslot hs).1
  have htitles : full.map Section.title = present.map Slot.title := by
    rw [List.map_map]
    exact map_filterMap_content fun slot hslot s hs => (HostFacts.slots_named hslot hs).2
  have hdistinct : (Report.infoKey :: full.map Section.key).Nodup := by
    rw [hkeys]
    exact (facts.slots_distinct shown).sublist ((List.filter_sublist.map Slot.key).cons_cons _)
  refine ⟨fun sink format => ?_, facts.slots_present shown, hkeys, htitles, rfl, rfl, rfl,
    document_plain ⟨m, full⟩, ?_, ?_, fun format facts' => ?_⟩
  · have hrecorded : (facts.sections settings format).map settings.placed = recorded format := by
      show _ = if format = .minimal then _ else _
      by_cases hf : format = .minimal
      · rw [if_pos hf, HostFacts.sections, if_pos hf]
        rfl
      · rw [if_neg hf, facts.sections_eq settings hf]
    have hreport : settings.report m (facts.sections settings format) = ⟨m, recorded format⟩ :=
      congrArg (Report.mk m) hrecorded
    obtain ⟨hfirst, hall, hwritten⟩ := Assembler.writeReport_spec sink format m settings facts
    rw [hreport] at hfirst hall hwritten
    exact ⟨hfirst, fun hok => congrArg Report.sections (hall hok), fun hbudget hflush =>
      hwritten ⟨hbudget, hflush⟩⟩
  · have hescape : (present.map Slot.title).map Html.escape = present.map Slot.title := by
      rw [List.map_map]
      exact List.map_congr_left fun slot hslot =>
        facts.slots_escape shown slot (List.mem_filter.mp hslot).1
    have hheadings : Html.headings (Format.html.encoder.document ⟨m, full⟩) =
        (full.map Section.title).map Html.escape := by
      rw [List.map_map]
      exact Html.headings_document ⟨m, full⟩
    rw [hheadings, htitles, hescape]
  · rw [document_structured, read_tail]
    rw [List.nodup_cons] at hdistinct
    exact congrArg Except.ok (Report.toJson_of_distinct hdistinct.2 hdistinct.1)
  · intro shown hsummary huptime hdevices hinterfaces sink
    exact writeReport_congr (HostFacts.only_congr hsummary huptime hdevices hinterfaces) sink m

end AdapterReport
