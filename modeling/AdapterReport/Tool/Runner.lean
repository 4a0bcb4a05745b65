import AdapterReport.FileTree
import AdapterReport.Tool.Activity
import AdapterReport.Tool.Capture

/-!
# Running tools

A `Runner` starts a tool of a `Toolbox`, without a shell, and looks again and again at what the tool
has written and whether it has ended, until its time is over. Then the tool is asked to end and, if
it does not do so soon, is killed.
`outputOrEmpty` is for collectors, which go on without a tool that is missing or hangs.
-/

namespace AdapterReport

/-- Why the system does not start a command. -/
inductive StartError where
  /-- The command leads to no file. -/
  | unreachable (error : FileError)
  /-- The file is no program. -/
  | denied
  /-- The command or an argument has a NUL, which ends a text for the system. -/
  | hasNul
  deriving DecidableEq

/-- What is said about a command that is not started. -/
def StartError.message : StartError → String
  | .unreachable error => error.message
  | .denied => "Permission denied (os error 13)"
  | .hasNul => "nul byte found in provided data"

/-- The programs of a host. -/
structure Toolbox where
  /-- The program of a command with these arguments. -/
  start : String → List String → Except StartError Program

/-- Why a tool was not run. -/
inductive ToolError where
  | noCommand
  /-- The command has a character that only a shell would know what to do with. -/
  | needsShell (command : String)
  | missing (command : String)
  | notStarted (reason : StartError)
  deriving DecidableEq

/-- What is said about a tool that was not run. -/
def ToolError.message : ToolError → String
  | .noCommand => "invalid command path: empty command"
  | .needsShell command =>
    "invalid command path: command contains shell metacharacters: " ++ command
  | .missing command => "command not found: " ++ command
  | .notStarted reason => "command failed to spawn: " ++ reason.message

/-- The result of a tool that was run. -/
structure ToolResult where
  output : Capture
  errors : Capture
  /-- The status, unless a signal has ended the tool. -/
  status : Option UInt8
  timedOut : Bool
  deriving DecidableEq

namespace ToolResult

/-- Whether something that the tool has written was left out. -/
def truncated (r : ToolResult) : Bool := r.output.truncated || r.errors.truncated

/-- Whether the tool has ended in time and with status zero. -/
def succeeded (r : ToolResult) : Bool := r.status == some 0 && !r.timedOut

end ToolResult

/-- How tools are run. -/
structure Runner where
  /-- The greatest number of bytes kept of each channel. -/
  limit : Nat
  /-- How long a tool may take. -/
  timeout : Time

namespace Runner

/-- One mebibyte of each channel, half a minute for each tool. -/
def default : Runner := ⟨1048576, .ofMilliseconds 30000⟩

/-- How long a tool that was asked to end may take to do so. -/
def grace : Time := .ofMilliseconds 500

/-- Whether a character is for a shell. -/
def isShellCharacter (c : Char) : Bool :=
  "|&;$\x60\n\r".toList.contains c

/-- The command itself, if it could be one. -/
def checked (command : String) : Except ToolError String :=
  if command.isEmpty then .error .noCommand
  else if command.toList.any isShellCharacter then .error (.needsShell command)
  else .ok command

/-- Whether a command is a path from the root. -/
def isFromRoot (command : String) : Bool :=
  Path.isAbsolute command.toList

/-- Starts a command. -/
def launch (tools : Toolbox) (command : String) (arguments : List String) :
    Except StartError Program :=
  let hasNul (s : String) : Bool := s.toList.contains '\x00'
  if hasNul command || arguments.any hasNul then .error .hasNul
  else tools.start command arguments

/-- Whether a command is a path from the root that leads to no file. -/
def isLost (tools : Toolbox) (command : String) : Bool :=
  isFromRoot command &&
    match launch tools command [] with
    | .error .hasNul | .error (.unreachable _) => true
    | _ => false

/-- The time between two looks at a tool. -/
def interval : Time := .ofMilliseconds 10

/-- The first look behind some time. -/
def lookAfter (time : Time) : Time := (time / interval + 1) * interval

/-- The last look before some time, or the start. -/
def lookBefore (time : Time) : Time := (time - 1) / interval * interval

/-- How a program is watched. -/
def watch (r : Runner) : Watch := ⟨r.timeout, r.timeout + grace, interval⟩

/-- What is kept of a channel before some time. -/
def captureBefore (r : Runner) (a : Activity) (channel : Channel) (time : Time) : Capture :=
  (a.written channel 0 time).foldl Capture.push (.empty r.limit)

/-- What is kept of a channel by a look that sees the end: what the looks before have kept, and what
then waits in the pipe. -/
def captureAtEnd (r : Runner) (a : Activity) (channel : Channel) (look : Time) : Capture :=
  let waiting := (a.written channel (look - interval) look).flatten
  (r.captureBefore a channel (look - interval)).drain waiting

/-- What comes of a program whose end is seen by a look. -/
def resultInTime (r : Runner) (a : Activity) (look : Time) (ending : Ending) : ToolResult where
  output := r.captureAtEnd a .output look
  errors := r.captureAtEnd a .errors look
  status := ending.status?
  timedOut := false

/-- What comes of a program whose end is not seen in time. What it has written since the last look
is lost, but the status with which it still ends is not. -/
def resultOverTime (r : Runner) (a : Activity) (ending : Option Ending) : ToolResult where
  output := r.captureBefore a .output (lookBefore r.timeout)
  errors := r.captureBefore a .errors (lookBefore r.timeout)
  status := ending.bind Ending.status?
  timedOut := true

/-- What comes of a program. -/
def result (r : Runner) (program : Program) : ToolResult :=
  let activity := program r.watch
  match activity.finish with
  | some (ended, ending) =>
    if lookAfter ended < r.timeout then r.resultInTime activity (lookAfter ended) ending
    else r.resultOverTime activity (activity.endingBefore? r.watch.last)
  | none => r.resultOverTime activity none

/-- Runs a command with these arguments. -/
def run (r : Runner) (tools : Toolbox) (command : String) (arguments : List String) :
    Except ToolError ToolResult := do
  let command ← checked command
  if isLost tools command then .error (.missing command)
  else match launch tools command arguments with
    | .ok program => .ok (r.result program)
    | .error (.unreachable .notFound) => .error (.missing command)
    | .error reason => .error (.notStarted reason)

/-- What a tool prints, whatever its status; nothing if it was not run or took too long. -/
def outputOrEmpty (r : Runner) (tools : Toolbox) (command : String) (arguments : List String) :
    String :=
  match r.run tools command arguments with
  | .ok result => if result.timedOut then "" else result.output.text
  | .error _ => ""

end Runner

end AdapterReport
