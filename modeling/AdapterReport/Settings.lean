import AdapterReport.Format
import AdapterReport.Json.Printer
import AdapterReport.Text.Blank

/-!
# Settings

The settings of a report and their JSON form. Settings that are left out have their default;
`Settings.ofJson?` accepts only settings that `Settings.problem?` has nothing against.
-/

namespace AdapterReport

/-- Which sections a report shows. -/
structure ShownSections where
  summary : Bool
  uptime : Bool
  devices : Bool
  interfaces : Bool
  deriving DecidableEq

/-- The settings of a report. -/
structure Settings where
  title : String
  /-- The title of the inventory. -/
  inventoryTitle : String
  /-- What the name of a report's file begins with. -/
  filePrefix : String
  /-- The version that the report shows. -/
  version : String
  sections : ShownSections
  /-- The keys of the sections that start folded. -/
  collapsed : List String
  deriving DecidableEq

/-- Why settings are refused. -/
inductive SettingsError where
  /-- The text is not the JSON form of any settings. -/
  | unreadable (fault : Json.Fault)
  /-- The beginning of the file name is empty or holds a slash. -/
  | badFilePrefix (filePrefix : String)
  | blankTitle
  deriving DecidableEq

/-- What is said about settings that are refused. -/
def SettingsError.message : SettingsError → String
  | .unreadable fault => "JSON error: " ++ fault.text
  | .badFilePrefix filePrefix =>
    "invalid configuration: file_prefix must be a non-empty file name, got '" ++ filePrefix ++ "'"
  | .blankTitle => "invalid configuration: title must not be empty"

namespace ShownSections

/-- All sections. -/
def all : ShownSections := ⟨true, true, true, true⟩

/-- Shown sections as a JSON value. -/
def toJson (s : ShownSections) : Json :=
  .object [("summary", .bool s.summary), ("uptime", .bool s.uptime),
    ("devices", .bool s.devices), ("interfaces", .bool s.interfaces)]

open Json.Reader in
/-- The fields of shown sections. -/
def fields : List (RecordField ShownSections) :=
  [.of .defaulted "summary" bool fun x s => { s with summary := x },
    .of .defaulted "uptime" bool fun x s => { s with uptime := x },
    .of .defaulted "devices" bool fun x s => { s with devices := x },
    .of .defaulted "interfaces" bool fun x s => { s with interfaces := x }]

/-- Reads shown sections. -/
def reader : Json.Reader ShownSections :=
  Json.Reader.record fields all

end ShownSections

namespace Settings

/-- The settings of a report for which nothing is set. -/
def default : Settings where
  title := "AMD Solarflare system report"
  inventoryTitle := "AMD Solarflare inventory report"
  filePrefix := defaultFilePrefix
  version := "4.16.1"
  sections := .all
  collapsed := []

/-- Sets the title. -/
def withTitle (s : Settings) (title : String) : Settings :=
  { s with title := title }

/-- Sets the version. -/
def withVersion (s : Settings) (version : String) : Settings :=
  { s with version := version }

/-- Lets one more section start folded. -/
def withCollapsed (s : Settings) (key : String) : Settings :=
  { s with collapsed := s.collapsed ++ [key] }

/-- A step in which settings are built. -/
inductive Step where
  | title (text : String)
  | version (text : String)
  | collapsed (key : String)

/-- The settings behind a step. -/
def Step.apply (s : Settings) : Step → Settings
  | .title text => s.withTitle text
  | .version text => s.withVersion text
  | .collapsed key => s.withCollapsed key

/-- The settings that these steps build. -/
def build (steps : List Step) : Settings :=
  steps.foldl Step.apply default

/-- Whether the section with this key starts folded. -/
def isCollapsed (s : Settings) (key : String) : Bool :=
  s.collapsed.contains key

/-- What makes settings unusable, the file name first. -/
def problem? (s : Settings) : Option SettingsError :=
  if s.filePrefix.isEmpty || s.filePrefix.toList.contains '/' then
    some (.badFilePrefix s.filePrefix)
  else if Text.isBlankText s.title then some .blankTitle
  else none

/-- Settings as a JSON value. -/
def toJson (s : Settings) : Json :=
  .object [
    ("title", .text s.title),
    ("inventory_title", .text s.inventoryTitle),
    ("file_prefix", .text s.filePrefix),
    ("version", .text s.version),
    ("sections", s.sections.toJson),
    ("collapsed", .array (s.collapsed.map .text))]

/-- The text of settings. -/
def print (s : Settings) : String :=
  s.toJson.pretty

open Json.Reader in
/-- The fields of settings. -/
def fields : List (RecordField Settings) :=
  [.of .defaulted "title" text fun x s => { s with title := x },
    .of .defaulted "inventory_title" text fun x s => { s with inventoryTitle := x },
    .of .defaulted "file_prefix" text fun x s => { s with filePrefix := x },
    .of .defaulted "version" text fun x s => { s with version := x },
    .of .defaulted "sections" ShownSections.reader fun x s => { s with sections := x },
    .of .defaulted "collapsed" (list text) fun x s => { s with collapsed := x }]

/-- Reads settings, usable or not. -/
def reader : Json.Reader Settings :=
  Json.Reader.record fields default

/-- Reads usable settings from a text. -/
def ofJson? (text : String) : Except SettingsError Settings :=
  match Json.read reader text with
  | .error fault => .error (.unreadable fault)
  | .ok s => match s.problem? with
    | some problem => .error problem
    | none => .ok s

end Settings

end AdapterReport
