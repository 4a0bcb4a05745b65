import AdapterReport.Proofs.Assembler.Whole

/-!
# What a report shows of a host

`Settings.shownIn` are the kinds of facts that a report in a format shows. A report takes its
sections from these facts only (`HostFacts.sections_only`), and exactly these are asked of a host
(`HostFacts.collect_eq_only`). So it makes no difference that a host is not asked for the others
(`generate_eq_writeReport`): the report is that of all facts.

A host answers every question, if only by having no answer, so nothing but the sink can make a
report fail.
-/

namespace AdapterReport

open Text.Utf8 (encode)

/-- The kinds of facts that a report shows. The inventory shows the same ones whatever is set. -/
def Settings.shownIn (settings : Settings) (format : Format) : ShownSections :=
  if format = .minimal then ⟨false, false, true, true⟩ else settings.sections

namespace HostFacts

/-- The facts of these kinds and no others. -/
def only (facts : HostFacts) (shown : ShownSections) : HostFacts where
  summary := if shown.summary then facts.summary else none
  uptime := if shown.uptime then facts.uptime else none
  devices := if shown.devices then facts.devices else []
  interfaces := if shown.interfaces then facts.interfaces else []

theorem only_only (facts : HostFacts) (shown : ShownSections) :
    (facts.only shown).only shown = facts.only shown := by
  obtain ⟨summary, uptime, devices, interfaces⟩ := shown
  cases summary <;> cases uptime <;> cases devices <;> cases interfaces <;> rfl

theorem only_congr {facts facts' : HostFacts} {shown : ShownSections}
    (hsummary : shown.summary = true → facts.summary = facts'.summary)
    (huptime : shown.uptime = true → facts.uptime = facts'.uptime)
    (hdevices : shown.devices = true → facts.devices = facts'.devices)
    (hinterfaces : shown.interfaces = true → facts.interfaces = facts'.interfaces) :
    facts.only shown = facts'.only shown := by
  have hif {α : Type} {b : Bool} {x y z : α} (h : b = true → x = y) :
      (if b then x else z) = if b then y else z := by
    cases b with
    | true => exact h rfl
    | false => rfl
  rw [only, hif hsummary, hif huptime, hif hdevices, hif hinterfaces]
  rfl

/-- The facts that a report does not show make no difference to its sections. -/
theorem sections_only (facts : HostFacts) (settings : Settings) (format : Format) :
    (facts.only (settings.shownIn format)).sections settings format =
      facts.sections settings format := by
  unfold sections Settings.shownIn
  by_cases h : format = .minimal
  · rw [if_pos h, if_pos h, if_pos h]
    rfl
  · obtain ⟨summary, uptime, devices, interfaces⟩ := settings.sections
    rw [if_neg h, if_neg h, if_neg h]
    cases summary <;> cases uptime <;> cases devices <;> cases interfaces <;> rfl

/-- What a host is asked for are the facts that the report shows. -/
theorem collect_eq_only (h : Host) (roots : Roots) (settings : Settings) (format : Format) :
    collect h roots settings format =
      (collect h roots { settings with sections := .all } .text).only
        (settings.shownIn format) := by
  unfold Settings.shownIn
  by_cases hf : format = .minimal
  · rw [if_pos hf, hf]
    rfl
  · have hminimal : decide (format = .minimal) = false := decide_eq_false hf
    rw [if_neg hf, collect, hminimal]
    rfl

end HostFacts

/-- Facts of which a report shows the same ones give the same report, over any sink. -/
theorem writeReport_congr {facts facts' : HostFacts} {settings : Settings} {format : Format}
    (h : facts.only (settings.shownIn format) = facts'.only (settings.shownIn format)) (sink : Sink)
    (m : Metadata) :
    writeReport sink format m settings facts = writeReport sink format m settings facts' := by
  have hsections : facts.sections settings format = facts'.sections settings format := by
    rw [← facts.sections_only, h, facts'.sections_only]
  rw [Assembler.writeReport_eq, Assembler.writeReport_eq, hsections]

/-- **A report of a host** is the report of all its facts, over any sink: that a section that is not
shown is not asked for cannot be seen. Nothing but the sink makes it fail. -/
theorem generate_eq_writeReport (sink : Sink) (format : Format) (m : Metadata) (settings : Settings)
    (h : Host) (roots : Roots) :
    let facts := HostFacts.collect h roots { settings with sections := .all } .text
    generate sink format m settings h roots = writeReport sink format m settings facts ∧
    (sink.budget = none → sink.refusesFlush = false →
      (generate sink format m settings h roots).1 = .ok () ∧
      (generate sink format m settings h roots).2.sink.written = sink.written ++
        encode (format.encoder.document (settings.report m (facts.sections settings format)))) := by
  intro facts
  have hgenerate : generate sink format m settings h roots =
      writeReport sink format m settings facts := by
    refine writeReport_congr ?_ sink m
    rw [HostFacts.collect_eq_only, HostFacts.only_only]
  refine ⟨hgenerate, fun hbudget hflush => ?_⟩
  rw [hgenerate]
  exact (Assembler.writeReport_spec sink format m settings facts).2.2 ⟨hbudget, hflush⟩

end AdapterReport
