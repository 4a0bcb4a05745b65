import AdapterReport.Assembler
import AdapterReport.Host.Collect

/-!
# Making a report of a host

`HostFacts.collect` asks the host for what the format will show, `Assembler.writeFacts` writes the
facts in a fixed order, and `generate` does both.
-/

namespace AdapterReport

/-- What a report shows about the host. -/
structure HostFacts where
  summary : Option Summary
  uptime : Option String
  devices : List Device
  interfaces : List Interface
  deriving DecidableEq

/-- Collects what the format shows. The inventory needs devices and interfaces only; a section that
is not shown is not asked for. -/
def HostFacts.collect (h : Host) (roots : Roots) (settings : Settings) (format : Format) :
    HostFacts :=
  let shown := settings.sections
  let minimal : Bool := format = .minimal
  { summary := if !minimal && shown.summary then some (h.summary roots) else none
    uptime := if !minimal && shown.uptime then some h.uptime else none
    devices := if minimal || shown.devices then h.devices roots else []
    interfaces := if minimal || shown.interfaces then h.interfaces roots else [] }

/-- The sections that show the facts, in their order. -/
def HostFacts.sections (facts : HostFacts) (settings : Settings) (format : Format) :
    List Section :=
  if format = .minimal then
    [.ofTable (Inventory.table settings.inventoryTitle facts.interfaces facts.devices)]
  else
    let shown := settings.sections
    (if shown.summary then (facts.summary.map Section.ofSummary).toList else [])
      ++ (if shown.uptime then
          (facts.uptime.map fun text =>
            Section.ofText "System Uptime" (some "uptime") text false).toList
        else [])
      ++ (if shown.devices then [.ofTable (Device.table facts.devices)] else [])
      ++ if shown.interfaces then [.ofTable (Interface.table facts.interfaces)] else []

namespace Assembler

/-- Adds sections one after the other. -/
def addSections : List Section → Assembler → Outcome
  | [], a => (.ok (), a)
  | s :: rest, a => (a.addSection s).andThen (addSections rest)

/-- Writes the whole report of the facts. -/
def writeFacts (facts : HostFacts) (settings : Settings) (a : Assembler) : Outcome :=
  a.begin.andThen fun a =>
    (a.addSections (facts.sections settings a.format)).andThen finish

end Assembler

/-- Writes a report of the facts to a sink. -/
def writeReport (sink : Sink) (format : Format) (m : Metadata) (settings : Settings)
    (facts : HostFacts) : Assembler.Outcome :=
  (Assembler.start sink format m settings).writeFacts facts settings

/-- Collects the facts of a host and writes a report of them. -/
def generate (sink : Sink) (format : Format) (m : Metadata) (settings : Settings) (h : Host)
    (roots : Roots) : Assembler.Outcome :=
  writeReport sink format m settings (.collect h roots settings format)

end AdapterReport
