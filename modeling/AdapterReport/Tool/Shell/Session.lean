import AdapterReport.Text.Numeral
import AdapterReport.Tool.Shell.Source
import AdapterReport.Tool.System.Process
import AdapterReport.Tool.Utility.Basic

/-!
# Sessions

A `Session` is what a shell knows while it runs: variables, functions, options, jobs. `Sh` is a part
of what a shell does. It goes from one session to the next one, asks the system, and may be left
because of an error or because the shell ends.
-/

namespace AdapterReport.Shell

/-- A variable. -/
structure Variable where
  name : String
  value : Option String
  isExported : Bool
  isReadOnly : Bool
  deriving DecidableEq

/-- What a variable, or the options, have been before they became local. -/
inductive Saved where
  | ofVariable (name : String) (before : Option Variable)
  | options (enabled : List String)

/-- A process of a job. -/
structure JobProcess where
  id : Nat
  ending : Option Ending
  deriving DecidableEq

/-- Processes that a shell has started together. -/
structure Job where
  number : Nat
  processes : List JobProcess
  /-- Whether the shell has waited for it, so that its number may be used again. -/
  isWaited : Bool
  deriving DecidableEq

namespace Job

/-- Whether all processes have ended. -/
def isDone (j : Job) : Bool := j.processes.all (·.ending.isSome)

/-- How the last process has ended. -/
def ending? (j : Job) : Option Ending := j.processes.getLast?.bind (·.ending)

end Job

/-- A descriptor that stands for something else while a command runs. -/
structure KeptDescriptor where
  descriptor : Nat
  /-- The descriptor that stands for what it stood for before, if that was anything. -/
  copy : Option Nat
  deriving DecidableEq

/-- Which commands are left out. -/
inductive Skip where
  | none
  /-- All up to the end of so many loops. -/
  | breaks (loops : Nat)
  /-- All up to the end of one loop but `loops - 1`, and then its next round. -/
  | continues (loops : Nat)
  /-- All up to the end of a function or file; `hasStatus` is set if a status was given. -/
  | returns (hasStatus : Bool)
  deriving DecidableEq

/-- A function. -/
structure ShellFunction where
  name : String
  body : Command

/-- What a shell knows. -/
structure Session where
  /-- The name under which it speaks. -/
  name : String
  /-- The number of the process of the shell itself, also in its children. -/
  process : Nat
  /-- The options that are set. -/
  options : List String
  vars : List Variable
  /-- What is local to commands and functions that run, the last one first. -/
  frames : List (List Saved)
  parameters : List String
  /-- The place of the next parameter that `getopts` looks at, and of the letter in it. -/
  optionPlace : Nat × Option Nat
  functions : List ShellFunction
  aliases : List (String × String)
  /-- What is done about signals. -/
  traps : List (Nat × String)
  /-- The signals that are ignored whatever is said about them. -/
  deaf : List Nat
  /-- Signals that have come and about which nothing was done yet. -/
  signalled : List Nat
  /-- The signal that has come last, unless those that have come were attended to since then. -/
  lastSignal : Option Nat
  /-- The status of the last command. -/
  status : Nat
  /-- The status to end with, if it has been said. -/
  lastStatus : Option Nat
  /-- The process that was started last to run beside the shell. -/
  beside : Option Nat
  /-- The status of the last commands whose output stands in a word. -/
  substituted : Nat
  /-- The line of the command. -/
  line : Nat
  /-- The line up to which commands have been read. -/
  reached : Nat
  /-- The command of the shell that runs. -/
  command : Option String
  skip : Skip
  loops : Nat
  /-- The jobs, the last one first. -/
  jobs : List Job
  documents : List (Nat × Document)
  nextDocument : Nat
  /-- Where programs were found. -/
  found : List (String × String)
  /-- The descriptors to be put back when commands end, those of the last command first. -/
  kept : List (List KeptDescriptor)
  /-- What the command of the shell that runs writes at its end, the last piece first. -/
  unwritten : List String
  /-- Whether the text is expanded that stands in front of a command that is shown. -/
  isTracing : Bool
  /-- How many functions run. -/
  depth : Nat
  /-- Which rights the files do not have that are made. -/
  mask : Nat
  /-- The limits that were set, by their letters. -/
  limits : List (Char × Option Nat)
  /-- The path of the working directory, as the shell has come to it. -/
  directory : String

/-- Why a shell leaves what it does. -/
inductive Departure where
  /-- Because of an error. -/
  | error
  /-- Because it shall end. -/
  | exit
  /-- Because there is nothing left to do. -/
  | finished
  deriving DecidableEq

/-- A part of what a shell does. -/
def Sh (α : Type) : Type := Session → (Except Departure α → Session → Process) → Process

namespace Sh

instance : Monad Sh where
  pure a := fun s next => next (.ok a) s
  bind part rest := fun s next =>
    part s fun result s =>
      match result with
      | .ok a => rest a s next
      | .error d => next (.error d) s

/-- What the shell knows. -/
def get : Sh Session := fun s next => next (.ok s) s

/-- Changes what the shell knows. -/
def modify (f : Session → Session) : Sh Unit := fun s next => next (.ok ()) (f s)

/-- Leaves what the shell does. -/
def leave {α : Type} (d : Departure) : Sh α := fun s next => next (.error d) s

/-- Does something and goes on even where it was left. -/
def attempt {α : Type} (part : Sh α) : Sh (Except Departure α) := fun s next =>
  part s fun result => next (.ok result)

/-- Does a part of a process. -/
def lift {α : Type} (task : Task α) : Sh α := fun s next => task fun a => next (.ok a) s

/-- Asks something of the system. -/
def ask (request : Request) : Sh request.Answer := fun s next =>
  .ask request fun answer => next (.ok answer) s

/-- Starts a child, which knows what the shell knows and goes on with something else. -/
def fork (child : Session → Process) : Sh Nat := fun s next =>
  .fork (child s) fun id => next (.ok id) s

/-- The process that does a part and ends with the status that is known then. -/
def toProcess (part : Sh Unit) (s : Session) : Process :=
  part s fun _ s => .exit (UInt8.ofNat s.status)

/-- Does something if a condition holds. -/
def onlyIf (condition : Bool) (part : Sh Unit) : Sh Unit := if condition then part else pure ()

/-! ## Speaking -/

/-- Writes to a descriptor. -/
def write (descriptor : Nat) (text : String) : Sh (Except SystemError Unit) :=
  lift (Task.write descriptor (Text.ByteText.toBytes text))

/-- Writes to the descriptor for errors. -/
def say (text : String) : Sh Unit := do
  let _ ← write Task.errors text

/-- Says something about an error, with the name of the shell, the line and the command. -/
def warn (text : String) : Sh Unit := do
  let s ← get
  let command := (s.command.map (· ++ ": ")).getD ""
  say (s.name ++ ": " ++ toString s.line ++ ": " ++ command ++ text ++ "\n")

/-- Leaves what the shell does because of an error, with a status. -/
def failWith {α : Type} (status : Nat) (text : String) : Sh α := do
  modify fun s => { s with status := status }
  warn text
  leave .error

/-- Leaves what the shell does because of an error. -/
def fail {α : Type} (text : String) : Sh α := failWith 2 text

/-- The number that a text spells, where it must spell one of 64 bits. -/
def longNumber (text : String) : Sh Int := do
  match Text.Numeral.signed? (Text.Numeral.natural? 10) text.toList with
  | none => fail ("Illegal number: " ++ text)
  | some r =>
    if r.rest.all Text.Numeral.isBlank && Text.Numeral.clamped r.value == r.value then
      return r.value
    else fail ("Illegal number: " ++ text)

/-- The number that a text spells, where it must spell a small one without a minus. -/
def number (text : String) : Sh Nat := do
  let n ← longNumber text
  if 0 ≤ n && n ≤ Int32.maxValue.toInt then return n.toNat else fail ("Illegal number: " ++ text)

end Sh

namespace Session

/-- The options that a shell has, with their letters. -/
def optionTable : List (String × Option Char) :=
  [("errexit", some 'e'), ("noglob", some 'f'), ("ignoreeof", some 'I'),
    ("interactive", some 'i'), ("monitor", some 'm'), ("noexec", some 'n'), ("stdin", some 's'),
    ("xtrace", some 'x'), ("verbose", some 'v'), ("vi", some 'V'), ("emacs", some 'E'),
    ("noclobber", some 'C'), ("allexport", some 'a'), ("notify", some 'b'),
    ("nounset", some 'u'), ("privileged", some 'p'), ("nolog", none), ("debug", none)]

/-- Whether an option is set. -/
def has (s : Session) (option : String) : Bool := s.options.contains option

/-- The session behind some signals. -/
def withCaught (s : Session) (caught : List Nat) : Session :=
  { s with signalled := s.signalled ++ caught, lastSignal := caught.getLast?.or s.lastSignal }

/-- The variable of a name. -/
def stored? (s : Session) (name : String) : Option Variable :=
  s.vars.find? (·.name == name)

/-- The value of a variable. -/
def value? (s : Session) (name : String) : Option String :=
  (s.stored? name).bind (·.value)

/-- What separates fields. -/
def separators (s : Session) : String :=
  (s.value? "IFS").getD " \t\n"

/-- The session with a variable as it is now. -/
def withVariable (s : Session) (v : Variable) : Session :=
  if (s.stored? v.name).isSome then
    { s with vars := s.vars.map fun old => if old.name == v.name then v else old }
  else { s with vars := v :: s.vars }

/-- The session without a variable. -/
def withoutVariable (s : Session) (name : String) : Session :=
  { s with vars := s.vars.filter (·.name != name) }

/-- The function of a name. -/
def function? (s : Session) (name : String) : Option ShellFunction :=
  s.functions.find? (·.name == name)

/-- The variables for other programs. -/
def environment (s : Session) : List (String × String) :=
  s.vars.filterMap fun v =>
    if v.isExported then v.value.map fun value => (v.name, value) else none

/-- Whether something is done about some signal, which would be forgotten by another program. -/
def hasTraps (s : Session) : Bool := s.traps.any (!·.2.isEmpty)

end Session

namespace Sh

/-! ## Variables -/

/-- Does what a new value of a variable means for the shell itself. -/
def notice (name value : String) : Sh Unit := do
  if name == "PATH" then modify fun s => { s with found := [] }
  if name == "OPTIND" then
    let n ← number value
    modify fun s => { s with optionPlace := (max n 1, none) }

/-- What becomes of a variable besides its value. -/
inductive Mark where
  | none
  | exported
  | readOnly
  deriving DecidableEq

/-- Gives a variable a value, or takes it away, and marks it. -/
def setVariable (name : String) (value : Option String) (mark : Mark) : Sh Unit := do
  if !isName name then fail (name ++ ": bad variable name")
  let s ← get
  let before := (s.stored? name).getD ⟨name, none, false, false⟩
  if before.isReadOnly then fail (name ++ ": is read only")
  notice name (value.getD "")
  modify fun s => s.withVariable
    { name := name
      value := value
      isExported := before.isExported || mark == .exported || s.has "allexport"
      isReadOnly := mark == .readOnly }

/-- Gives a variable a value. -/
def assign (name value : String) : Sh Unit := setVariable name (some value) .none

/-- The variables that a shell always knows, if only by their names. -/
def lasting : List String := ["IFS", "MAIL", "MAILPATH", "OPTIND", "PATH", "PS1", "PS2", "PS4"]

/-- Takes the value of a variable away. -/
def unset (name : String) : Sh Unit := do
  let name := String.ofList (name.toList.takeWhile (· != '='))
  if !isName name then fail (name ++ ": bad variable name")
  let s ← get
  match s.stored? name with
  | none => return
  | some v => do
    if v.isReadOnly then fail (name ++ ": is read only")
    let isLocal := s.frames.any fun frame => frame.any fun
      | .ofVariable n _ => n == name
      | .options _ => false
    notice name ""
    if isLocal || lasting.contains name then
      modify fun s => s.withVariable { v with value := none }
    else modify fun s => s.withoutVariable name

/-- Makes a variable or the options local to what runs; a name may stand in front of a value. -/
def makeLocal (text : String) (isExported : Bool) : Sh Unit := do
  let save (saved : Saved) : Sh Unit := modify fun s =>
    match s.frames with
    | frame :: rest => { s with frames := (saved :: frame) :: rest }
    | [] => s
  let s ← get
  if text == "-" then save (.options s.options)
  else
    let name := String.ofList (text.toList.takeWhile (· != '='))
    let value := (text.toList.dropWhile (· != '=')).tail
    let hasValue := text.toList.contains '='
    let before := s.stored? name
    let mark : Mark := if isExported then .exported else .none
    if hasValue then setVariable name (some (String.ofList value)) mark
    else if before.isNone then setVariable name none mark
    save (.ofVariable name before)

/-- Puts back what has been local. -/
def restore (saved : Saved) : Sh Unit := do
  match saved with
  | .options enabled => modify fun s => { s with options := enabled }
  | .ofVariable name none => modify (·.withoutVariable name)
  | .ofVariable name (some v) => do
    notice name (v.value.getD "")
    modify (·.withVariable v)

/-- Puts back what has been local to all but the first so many frames. The number bounds the
frames. -/
def unwind (depth : Nat) : Nat → Sh Unit
  | 0 => pure ()
  | n + 1 => do
    let s ← get
    match s.frames with
    | [] => pure ()
    | frame :: rest =>
      if s.frames.length ≤ depth then pure ()
      else do
        modify fun s => { s with frames := rest }
        frame.forM restore
        unwind depth n

/-- Does something for which variables can be local if `opens` is set. They stay as they are where
it is left. -/
def withFrame {α : Type} (opens : Bool) (part : Sh α) : Sh α := do
  let depth := (← get).frames.length
  onlyIf opens (modify fun s => { s with frames := [] :: s.frames })
  let a ← part
  let s ← get
  unwind depth s.frames.length
  return a

end Sh

end AdapterReport.Shell
