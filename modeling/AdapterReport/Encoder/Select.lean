import AdapterReport.Encoder.Csv
import AdapterReport.Encoder.Plain
import AdapterReport.Encoder.Structured
import AdapterReport.Html.Page

/-!
# The encoder of a format
-/

namespace AdapterReport

/-- The encoder of a format. -/
def Format.encoder : Format → Encoder
  | .text => Plain.encoder
  | .html => Html.encoder
  | .minimal => Csv.encoder
  | .json => Structured.encoder

end AdapterReport
