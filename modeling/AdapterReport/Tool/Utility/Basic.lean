import AdapterReport.Tool.System.Process
import AdapterReport.Tool.Utility.Quoting

/-!
# Utilities

A `Utility` is a small program: a process for every name under which it is called and every list of
arguments, all of them byte texts. What most of them do is here: write to a descriptor, complain,
read to the end.
-/

namespace AdapterReport

/-- The process that a utility is under a name and with these arguments. -/
abbrev Utility := String → List String → Process

namespace Task

/-- The descriptor from which a process reads unless it is told otherwise. -/
def input : Nat := 0

/-- The descriptor to which a process writes. -/
def output : Nat := 1

/-- The descriptor for what a process says about errors. -/
def errors : Nat := 2

/-- Writes bytes; nothing is asked of the system where there are none. -/
def write (descriptor : Nat) (bytes : List UInt8) : Task (Except SystemError Unit) :=
  if bytes.isEmpty then pure (.ok ()) else ask (.write descriptor bytes)

/-- Says something about an error. -/
def say (text : String) : Task Unit := do
  let _ ← write errors (Text.ByteText.toBytes text)

/-- Opens a file for reading. -/
def openFile (path : String) : Task (Except SystemError Nat) :=
  ask (.openPath (Text.ByteText.toBytes path) .read)

/-- What can be said about what a descriptor stands for. -/
def statusOf (descriptor : Nat) : Task (Except SystemError FileStatus) :=
  ask (.status (Text.Utf8.encode ("/proc/self/fd/" ++ toString descriptor)) true)

/-- More pieces than are ever read. -/
def maxPieces : Nat := 1000000000

end Task

namespace Utility

/-- Does something with every piece that is read from a descriptor, from one value to the next one,
up to the end or an error; a result that is not `ok` ends the reading. The number bounds the
pieces. -/
def readPieces {σ : Type} (descriptor size : Nat) (step : σ → List UInt8 → Task (Except σ σ)) :
    Nat → σ → Task (σ × Option SystemError)
  | 0, state => pure (state, none)
  | n + 1, state => do
    match ← Task.ask (.read descriptor size) with
    | .error .interrupted => readPieces descriptor size step n state
    | .error e => return (state, some e)
    | .ok [] => return (state, none)
    | .ok piece =>
      match ← step state piece with
      | .ok next => readPieces descriptor size step n next
      | .error last => return (last, none)

/-- The number of bytes that are kept back until they are written together. -/
def blockSize : Nat := 4096

/-- Writes as many whole blocks as there are and keeps the rest. -/
def writeBlocks (pending : List UInt8) : Task (Except SystemError (List UInt8)) := do
  let whole := pending.length / blockSize * blockSize
  match ← Task.write Task.output (pending.take whole) with
  | .ok () => return .ok (pending.drop whole)
  | .error e => return .error e

/-- Says something about an error behind what was kept back. -/
def complain (pending : List UInt8) (text : String) : Task Unit := do
  let _ ← Task.write Task.output pending
  Task.say text

/-- Ends a utility: writes what was kept back, and complains if that fails. -/
def finish (name : String) (pending : List UInt8) (status : UInt8) : Process :=
  Task.toProcess do
    match ← Task.write Task.output pending with
    | .ok () => return status
    | .error e => do
      Task.say (name ++ ": write error: " ++ e.message ++ "\n")
      return 1

/-- What is said behind a complaint about arguments. -/
def hint (name : String) : String :=
  "Try '" ++ name ++ " --help' for more information.\n"

/-- The utility that only complains about its arguments. -/
def misused (name : String) (complaint : String) : Process :=
  Task.toProcess do
    Task.say (name ++ ": " ++ complaint ++ "\n" ++ hint name)
    return 1

end Utility

end AdapterReport
