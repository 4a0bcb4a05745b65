import AdapterReport.Calendar
import AdapterReport.Json.Reader
import AdapterReport.Text.LowerCase
import AdapterReport.Path

/-!
# Formats of a report

The four formats, the file extension of each, and the format that a path suggests by its extension.
-/

namespace AdapterReport

/-- A format in which a report is written. -/
inductive Format where
  /-- Column-aligned plain text. -/
  | text
  /-- A page of its own with sections that fold. -/
  | html
  /-- A bare inventory of comma-separated values. -/
  | minimal
  /-- One structured document. -/
  | json
  deriving DecidableEq

namespace Format

/-- All formats. -/
def all : List Format := [.text, .html, .minimal, .json]

/-- The name of a format. -/
def name : Format → String
  | .text => "text"
  | .html => "html"
  | .minimal => "minimal"
  | .json => "json"

/-- The format with exactly this name. -/
def ofName? (s : String) : Option Format :=
  all.find? (·.name == s)

/-- The extension of a file that holds a report. -/
def extension : Format → String
  | .text | .minimal => "txt"
  | .html => "html"
  | .json => "json"

/-- Whether a section is written as soon as it is known. A structured document waits for the last
one. -/
def isStreaming (f : Format) : Bool :=
  f != .json

/-- The format that a path suggests by its extension, in letters of either case. -/
def ofPath? (path : String) : Option Format := do
  let ext ← Path.extension? path.toList
  match Text.lowerLatin (String.ofList ext) with
  | "json" => some .json
  | "html" | "htm" => some .html
  | _ => none

/-- A format that is asked for wins over the one that the path suggests, which wins over text. -/
def resolve (asked : Option Format) (path : Option String) : Format :=
  (asked.or (path.bind ofPath?)).getD .text

/-- Reads the name of a format. -/
def reader : Json.Reader Format :=
  Json.Reader.variant ofName?

end Format

/-- The beginning of the name of a report's file, unless it is set otherwise. -/
def defaultFilePrefix : String := "sfreport"

/-- The name of a report's file: what it begins with, the host, the time, and the extension. -/
def reportFileName (start hostname : String) (moment : Moment) (format : Format) : String :=
  start ++ "-" ++ hostname ++ "-" ++ moment.stamp ++ "." ++ format.extension

end AdapterReport
