import AdapterReport.Tool.Shell.Builtin.Files
import AdapterReport.Tool.Shell.Builtin.Processes
import AdapterReport.Tool.Shell.Builtin.Variables
import AdapterReport.Tool.Shell.Test
import AdapterReport.Tool.Utility.Echo
import AdapterReport.Tool.Utility.Printf

/-!
# The commands of the shell

The commands of the shell by their names, except those that run other commands.
-/

namespace AdapterReport.Shell.Sh

/-- Writes its arguments. -/
def echo : Builtin := fun _ arguments => do
  put (Echo.builtinOutput arguments)
  return 0

/-- Writes a format with arguments. -/
def printf : Builtin := fun _ arguments => do
  let (_, operands) ← letters "" "" arguments
  match operands with
  | [] => fail "usage: printf format [arg ...]"
  | format :: rest => do
    let outcome := Printf.run Printf.builtin format rest
    outcome.complaints.forM warn
    put outcome.bytes
    return outcome.status.toNat

/-- Says whether a condition holds. -/
def condition : Builtin := fun name arguments => do
  return if ← test name arguments then 0 else 1

/-- Leaves loops. -/
def leaveLoops (skip : Nat → Skip) : Builtin := fun _ arguments => do
  let n ← match arguments with
    | [] => pure 1
    | text :: _ => do
      let n ← number text
      if n == 0 then fail ("Illegal number: " ++ text) else pure n
  modify fun s => if s.loops == 0 then s else { s with skip := skip (min n s.loops) }
  return 0

/-- Leaves a function, or a text that is read. -/
def leaveFunction : Builtin := fun _ arguments => do
  match arguments with
  | [] => do
    modify fun s => { s with skip := .returns false }
    return (← get).status
  | text :: _ => do
    let n ← number text
    modify fun s => { s with skip := .returns true }
    return n

/-- Ends the shell. -/
def exit : Builtin := fun _ arguments => do
  match arguments with
  | [] => pure ()
  | text :: _ => do
    let n ← number text
    modify fun s => { s with lastStatus := some n }
  leave .exit

/-- Tells what a name stands for if that is asked for. -/
def command : Builtin := fun _ arguments => do
  let (given, operands) ← letters "pvV" "" arguments
  let has (c : Char) : Bool := given.any (·.letter == c)
  match operands with
  | name :: _ =>
    if has 'v' || has 'V' then describe (has 'V') (has 'p') name else return 0
  | [] => return 0

/-- The commands by their names. -/
def builtins : List (String × Builtin) :=
  [(":", fun _ _ => pure 0), ("[", condition), ("alias", defineAliases), ("bg", resume),
    ("break", leaveLoops .breaks), ("cd", cd), ("chdir", cd), ("command", command),
    ("continue", leaveLoops .continues), ("echo", echo), ("exit", exit),
    ("export", markVariables .exported), ("false", fun _ _ => pure 1), ("fg", resume),
    ("getopts", getopts), ("hash", hash), ("jobs", jobs), ("kill", kill), ("local", localNames),
    ("printf", printf), ("pwd", pwd), ("read", read), ("readonly", markVariables .readOnly),
    ("return", leaveFunction), ("set", set), ("shift", shift), ("test", condition),
    ("times", times), ("trap", trap), ("true", fun _ _ => pure 0), ("type", type),
    ("ulimit", ulimit), ("umask", umask), ("unalias", removeAliases), ("unset", unsetNames),
    ("wait", wait)]

end AdapterReport.Shell.Sh
