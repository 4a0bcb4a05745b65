import AdapterReport.Json.Reader
import AdapterReport.Text.Blank
import AdapterReport.Text.LowerCase
import AdapterReport.Text.Lines

/-!
# Logging

The level and the format of log lines, their names, and the rules by which they are found: a choice
on the command line wins over the program's own variables, which win over directives for log
levels in general.
-/

namespace AdapterReport

/-- How log lines are written. -/
inductive LogFormat where
  /-- As plain lines. -/
  | human
  /-- As one JSON object a line. -/
  | jsonl
  deriving DecidableEq

/-- The least severity that is logged. -/
inductive LogLevel where
  | trace
  | debug
  | info
  | warn
  | error
  | off
  deriving DecidableEq

namespace LogFormat

/-- All formats with their names, the proper one first. -/
def names : List (LogFormat × List String) :=
  [(.human, ["human", "console", "pretty", "text"]), (.jsonl, ["jsonl", "json"])]

/-- The proper name of a format. -/
def name : LogFormat → String
  | .human => "human"
  | .jsonl => "jsonl"

/-- The format with exactly this proper name. -/
def ofProperName? (s : String) : Option LogFormat :=
  [human, jsonl].find? (·.name == s)

/-- The format with one of its names, in letters of either case and with blanks around it. -/
def ofName? (s : String) : Option LogFormat :=
  (names.find? fun entry => entry.2.contains (Text.lowerLatin (Text.trim s))).map (·.1)

/-- What is said about a text that names no format. -/
def unknownMessage (s : String) : String :=
  "unknown log format '" ++ s ++ "'"

/-- Reads the proper name of a format. -/
def reader : Json.Reader LogFormat :=
  Json.Reader.variant ofProperName?

end LogFormat

namespace LogLevel

/-- All levels with their names, the proper one first. -/
def names : List (LogLevel × List String) :=
  [(.trace, ["trace"]), (.debug, ["debug"]), (.info, ["info"]), (.warn, ["warn", "warning"]),
    (.error, ["error"]), (.off, ["off", "none", "quiet"])]

/-- The proper name of a level. -/
def name : LogLevel → String
  | .trace => "trace"
  | .debug => "debug"
  | .info => "info"
  | .warn => "warn"
  | .error => "error"
  | .off => "off"

/-- The level of a log line in its text; nothing is logged at `off`. -/
def tag? : LogLevel → Option String
  | .trace => some "TRACE"
  | .debug => some "DEBUG"
  | .info => some "INFO"
  | .warn => some "WARN"
  | .error => some "ERROR"
  | .off => none

/-- The rank of a level, from the most verbose one on. -/
def rank : LogLevel → Nat
  | .trace => 0
  | .debug => 1
  | .info => 2
  | .warn => 3
  | .error => 4
  | .off => 5

/-- Whether a line of level `line` is logged where the least severity is `least`. -/
def shows (least line : LogLevel) : Bool :=
  least.rank ≤ line.rank

/-- The level with exactly this proper name. -/
def ofProperName? (s : String) : Option LogLevel :=
  [trace, debug, info, warn, error, off].find? (·.name == s)

/-- The level with one of its names, in letters of either case and with blanks around it. -/
def ofName? (s : String) : Option LogLevel :=
  (names.find? fun entry => entry.2.contains (Text.lowerLatin (Text.trim s))).map (·.1)

/-- What is said about a text that names no level. -/
def unknownMessage (s : String) : String :=
  "unknown log level '" ++ s ++ "'"

/-- Reads the proper name of a level. -/
def reader : Json.Reader LogLevel :=
  Json.Reader.variant ofProperName?

/-- The level that flags ask for: quiet wins, then the number of requests for more lines counts. -/
def ofVerbosity (verbose : Nat) (quiet : Bool) : Option LogLevel :=
  if quiet then some .off
  else match verbose with
    | 0 => none
    | 1 => some .info
    | 2 => some .debug
    | _ + 3 => some .trace

/-- The most verbose level whose proper name occurs in directives, in letters of either case. -/
def ofDirectives? (directives : String) : Option LogLevel :=
  [trace, debug, info, warn, error].find? fun level =>
    Text.occursIn level.name.toList (Text.lowerLatin directives).toList

end LogLevel

/-- How one run logs. -/
structure LogSettings where
  format : LogFormat
  level : LogLevel
  /-- Whether plain lines begin with the time. -/
  timestamps : Bool
  deriving DecidableEq

namespace LogSettings

/-- The settings from the level and the format in the program's own variables, the directives, and
the choices on the command line. What names nothing is ignored. -/
def resolve (level directives format : Option String) (chosenLevel : Option LogLevel)
    (chosenFormat : Option LogFormat) : LogSettings :=
  let level := (level.bind LogLevel.ofName?).or (directives.bind LogLevel.ofDirectives?)
  let format := format.bind LogFormat.ofName?
  { format := (chosenFormat.or format).getD .human
    level := (chosenLevel.or level).getD .warn
    timestamps := false }

end LogSettings

end AdapterReport
