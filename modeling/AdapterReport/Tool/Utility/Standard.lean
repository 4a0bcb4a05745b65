import AdapterReport.Tool.Utility.Cat
import AdapterReport.Tool.Utility.Echo
import AdapterReport.Tool.Utility.Head
import AdapterReport.Tool.Utility.Printf
import AdapterReport.Tool.Utility.Sleep
import AdapterReport.Tool.Utility.Tr

/-!
# The standard utilities

The utilities of every host by their names. A shell is not among them.
-/

namespace AdapterReport.Utility

/-- Writes the same bytes again and again. The number bounds the times. -/
def repeatedly (bytes : List UInt8) : Nat → Task SystemError
  | 0 => pure .noSpace
  | n + 1 => do
    match ← Task.write Task.output bytes with
    | .ok () => repeatedly bytes n
    | .error e => return e

/-- Writes the same line without end. -/
def yes : Utility := fun name arguments =>
  let line := (if arguments.isEmpty then "y" else Echo.joined arguments) ++ "\n"
  let block := String.join (List.replicate (max 1 (8192 / line.length)) line)
  Task.toProcess do
    let e ← repeatedly (Text.ByteText.toBytes block) Task.maxPieces
    Task.say (name ++ ": standard output: " ++ e.message ++ "\n")
    return 1

/-- The utilities by their names. -/
def standard : List (String × Utility) :=
  [("cat", Cat.utility), ("echo", Echo.utility), ("false", fun _ _ => .exit 1),
    ("head", Head.utility), ("printf", Printf.utility), ("sleep", Sleep.utility),
    ("tr", Tr.utility), ("true", fun _ _ => .exit 0), ("yes", yes)]

/-- The utility of this name. -/
def named? (name : String) : Option Utility := standard.lookup name

end AdapterReport.Utility
