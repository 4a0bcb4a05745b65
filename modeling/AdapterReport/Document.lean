import AdapterReport.Calendar
import AdapterReport.Section

/-!
# Reports

A `Report` is metadata and the sections in the order in which they were added. `Report.toJson` is
the structured document: the metadata under `report_info`, then each section under its key, where a
key that comes again keeps its place and takes the later value.
-/

namespace AdapterReport

/-- Who made the report, where and when. -/
structure Metadata where
  title : String
  version : String
  /-- The time of making, as it is shown. -/
  date : String
  hostname : String
  /-- Whether the report was made by the superuser. -/
  user : String
  /-- The time of making in seconds since the beginning of 1970. -/
  seconds : Int
  deriving DecidableEq

namespace Metadata

/-- The metadata of a report that is made at this moment. -/
def atMoment (title version hostname user : String) (moment : Moment) : Metadata :=
  ⟨title, version, moment.headerText, hostname, user, moment.seconds⟩

/-- The line that announces a report. -/
def banner (m : Metadata) : String :=
  m.title ++ " (version " ++ m.version ++ ")"

/-- The metadata that the structured document shows. -/
def toJson (m : Metadata) : Json :=
  .object [("version", .text m.version), ("date", .text m.date), ("hostname", .text m.hostname),
    ("user", .text m.user)]

end Metadata

/-- Metadata and sections. -/
structure Report where
  metadata : Metadata
  sections : List Section

namespace Report

/-- A report without sections. -/
def start (m : Metadata) : Report := ⟨m, []⟩

/-- The report with one more section at the end. -/
def push (r : Report) (s : Section) : Report :=
  { r with sections := r.sections ++ [s] }

/-- The structured document. -/
def toJson (r : Report) : Json :=
  .ofMembers (("report_info", r.metadata.toJson) :: r.sections.map fun s => (s.key, s.toJson))

end Report

end AdapterReport
