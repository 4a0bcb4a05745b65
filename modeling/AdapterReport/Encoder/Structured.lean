import AdapterReport.Encoder.Basic
import AdapterReport.Json.Printer

/-!
# The structured document

Sections have their place in the document, so nothing is written before the report is complete.
-/

namespace AdapterReport.Structured

/-- The encoder of the structured document. -/
def encoder : Encoder where
  format := .json
  headWrites _ := []
  headingWrites _ _ _ := []
  tableWrites _ := []
  footerWrites _ := []
  preformattedWrites _ _ := []
  tailWrites report := [report.toJson.pretty, "\n"]

end AdapterReport.Structured
