import AdapterReport.CommandLine.Options
import AdapterReport.Destination
import AdapterReport.FileTree
import AdapterReport.Generate
import AdapterReport.Tool.Runner

/-!
# A run of the program

`Run.perform` is the whole program as a function: from the arguments, the environment, the files
and the tools to the exit status, what is printed and logged, and the files behind it.
-/

namespace AdapterReport

/-- What a run can use. -/
structure Surroundings where
  arguments : List String
  /-- The variables of the environment. -/
  environment : List (String × String)
  files : FileTree
  tools : Toolbox
  kernel : Option Kernel
  /-- Whether the superuser runs the program. -/
  isRoot : Bool
  now : Moment

/-- A line of the log. -/
structure LogLine where
  level : LogLevel
  message : String
  deriving DecidableEq

/-- What a run leaves behind. -/
structure Run where
  status : ExitStatus
  /-- The bytes on standard output. -/
  output : List UInt8
  /-- The text on the error output, log lines apart. -/
  messages : String
  /-- The log lines, as far as they are shown. -/
  log : List LogLine
  files : FileTree

/-- How the arguments ask for tools to be run. -/
def Options.runner (o : Options) : Runner :=
  match o.commandTimeout with
  | some seconds => { Runner.default with timeout := .ofMilliseconds (1000 * seconds) }
  | none => .default

namespace Surroundings

variable (s : Surroundings)

/-- The value of a variable. -/
def environment? (name : String) : Option String :=
  s.environment.lookup name

/-- Where the facts are looked for. -/
def roots : Roots :=
  .overridden (s.environment? "SFREPORT_SYSFS") (s.environment? "SFREPORT_PROCFS")
    (s.environment? "SFREPORT_ETC")

/-- The host as the run sees it with these files. -/
def host (o : Options) (files : FileTree) : Host :=
  .ofTree files s.kernel (o.runner.outputOrEmpty s.tools)

/-- How the run logs. -/
def logSettings (o : Options) : LogSettings :=
  .resolve (s.environment? "SFREPORT_LOG") (s.environment? "RUST_LOG")
    (s.environment? "SFREPORT_LOG_FORMAT") (LogLevel.ofVerbosity o.verbose o.quiet) o.logFormat

/-- The settings from the configuration file. -/
def settings (o : Options) : Except Failure Settings :=
  match o.config with
  | none => .ok .default
  | some path =>
    match s.files.readText (Text.Utf8.encode path) with
    | .error e => .error (.config (path ++ ": " ++ e.message))
    | .ok text =>
      match Settings.ofJson? text with
      | .ok settings => .ok settings
      | .error e => .error (.config (path ++ ": " ++ e.message))

/-- Who runs the program. -/
def user : String :=
  if s.isRoot then "ROOT USER" else "NON-ROOT USER"

/-- The tools that collecting facts asks for. -/
def toolsAsked (settings : Settings) (format : Format) (facts : HostFacts) : List String :=
  let minimal : Bool := format = .minimal
  (if !minimal && settings.sections.summary then ["lsb_release"] else [])
    ++ (if !minimal && settings.sections.uptime then ["uptime"] else [])
    ++ facts.interfaces.flatMap fun _ => ["ethtool", "modinfo"]

/-- Whether there is a tool of this name. -/
def hasTool (name : String) : Bool :=
  (s.tools.start name []).toBool

end Surroundings

namespace Run

/-- The line about a user without rights. -/
def warning (s : Surroundings) : String :=
  if s.isRoot then ""
  else "WARNING: This script will not provide a full report\nunless you run it as root.\n"

/-- The sink that an opened file is, and the entry that it leaves. -/
def sinkOf : Entry → Sink
  | .full => { Sink.unlimited with budget := some 0, whenFull := .noSpace }
  | _ => .unlimited

/-- The files behind the writing of a report. -/
def filesAfter (files : FileTree) (place : List EntryName) (e : Entry) (written : List UInt8) :
    FileTree :=
  match e with
  | .file _ => files.put place (.file written)
  | _ => files

/-- What of a report comes to standard output, where it was written to this entry. -/
def printed (e : Entry) (written : List UInt8) : List UInt8 :=
  if e = .descriptor 1 then written else []

/-- What of a report comes to the error output, where it was written to this entry. -/
def said (e : Entry) (written : List UInt8) : String :=
  if e = .descriptor 2 then Text.Utf8.decodeLossy written else ""

/-- Makes the report in a sink. -/
def report (s : Surroundings) (o : Options) (settings : Settings) (d : Destination)
    (files : FileTree) (sink : Sink) : Except AssemblyError Unit × List UInt8 × List LogLine :=
  let host := s.host o files
  let m := Metadata.atMoment settings.title settings.version host.hostname s.user s.now
  let facts := HostFacts.collect host s.roots settings d.format
  let (result, a) := writeReport sink d.format m settings facts
  let asked := Surroundings.toolsAsked settings d.format facts
  let ran := (asked.filter s.hasTool).map fun tool =>
    LogLine.mk .trace ("tool finished: " ++ tool)
  let outcome := match result with
    | .ok () => LogLine.mk .info "report written"
    | .error e => LogLine.mk .error ("failed to write report: " ++ e.message)
  (result, a.sink.written, ran ++ [outcome])

/-- What is said when the report could not be written. -/
def writeFailure (e : AssemblyError) : String :=
  "sfreport: failed to write report: " ++ e.message ++ "\n"

/-- The run with usable settings: it opens the destination, collects the facts and writes them. -/
def withSettings (s : Surroundings) (o : Options) (settings : Settings) : Run :=
  let hostname := Kernel.hostname s.kernel
  let d := Destination.resolve o.json o.minimal o.outputFile settings.filePrefix hostname s.now
  let banner := (Metadata.atMoment settings.title settings.version hostname s.user s.now).banner
  match d.path with
  | none =>
    let (result, written, log) := report s o settings d s.files .unlimited
    match result with
    | .ok () => ⟨.clean, written, warning s, log, s.files⟩
    | .error e => ⟨.outputError, written, warning s ++ writeFailure e, log, s.files⟩
  | some path =>
    let opening := warning s ++ banner ++ "\n"
    match s.files.openForWriting (Text.Utf8.encode path) with
    | .error e =>
      let failure := Failure.sink path e.message
      ⟨failure.exitStatus, [], opening ++ failure.headline ++ "\nopen: " ++ e.message ++ "\n", [],
        s.files⟩
    | .ok (place, entry) =>
      let files := s.files.put place entry
      let (result, written, log) := report s o settings d files (sinkOf entry)
      let after := filesAfter files place entry written
      let output := printed entry written
      let messages := opening ++ said entry written
      match result with
      | .ok () =>
        ⟨.clean, output, messages ++ "Finished writing report to " ++ d.display ++ "\n", log,
          after⟩
      | .error e => ⟨.outputError, output, messages ++ writeFailure e, log, after⟩

/-- The run with arguments that are in order. -/
def withOptions (s : Surroundings) (o : Options) : Run :=
  match s.settings o with
  | .error failure =>
    ⟨failure.exitStatus, [], "sfreport: " ++ failure.message ++ "\n", [], s.files⟩
  | .ok settings =>
    if o.version then
      ⟨.clean, [], settings.title ++ " (version " ++ settings.version ++ ")\n", [], s.files⟩
    else withSettings s o settings

/-- The run with all of its log lines, and how much of them is shown. -/
def logged (s : Surroundings) (o : Options) : Run :=
  let run := withOptions s o
  let log := run.log ++ [LogLine.mk .debug ("exiting: " ++ run.status.name)]
  { run with log := log.filter fun line => (s.logSettings o).level.shows line.level }

/-- The whole program. -/
def perform (s : Surroundings) : Run :=
  match Options.ofArguments? s.arguments (s.environment? "SFREPORT_CONFIG") with
  | .error e =>
    ⟨.argumentError, [], "error: " ++ e.message ++ "\n", [], s.files⟩
  | .ok o =>
    if o.help then ⟨.clean, Text.Utf8.encode Options.helpText, "", [], s.files⟩
    else logged s o

end Run

end AdapterReport
