import AdapterReport.Tool.Shell.Builtin.Basic
import AdapterReport.Tool.Shell.Jobs

/-!
# Commands about processes

The commands of the shell that show jobs, wait for them, send signals, and say what is done about
signals that come.
-/

namespace AdapterReport.Shell.Sh

/-! ## Jobs -/

/-- The job that a text names behind a percent sign; the last one if there is no text. -/
def jobNamed (text : Option String) : Sh Job := do
  let s ← get
  let orFail (job : Option Job) (what : String) : Sh Job :=
    match job with
    | some j => return j
    | none => fail what
  match text with
  | none => orFail s.jobs.head? "No current job"
  | some t =>
    match t.toList with
    | ['%'] | ['%', '+'] | ['%', '%'] => orFail s.jobs.head? "No current job"
    | ['%', '-'] => orFail (s.jobs[1]?) "No previous job"
    | ['%', '?'] =>
      match s.jobs with
      | [j] => return j
      | [] => fail ("No such job: " ++ t)
      | _ => fail (t ++ ": ambiguous")
    | '%' :: digits =>
      let job := if digits.all Char.isDigit then
          (String.ofList digits).toNat?.bind s.job?
        else none
      orFail job ("No such job: " ++ t)
    | _ => fail ("No such job: " ++ t)

/-- How much room the number and the state of a job take. -/
def stateWidth : Nat := 33

/-- Shows a job. One that has ended is forgotten then. -/
def showJob (options : List Char) (j : Job) : Sh Unit := do
  let first := ((j.processes.head?.map (·.id)).getD 0)
  if options.contains 'p' then put (toString first ++ "\n")
  else
    let s ← get
    let mark :=
      if s.jobs.head? == some j then "+" else if s.jobs[1]? == some j then "-" else " "
    let state := match j.ending? with
      | some e => if j.isDone then Ending.shown e else "Running"
      | none => "Running"
    let number := "[" ++ toString j.number ++ "] " ++ mark ++ " "
    let fill (text : String) : String :=
      text ++ String.ofList (List.replicate (max 1 (stateWidth - text.length)) ' ')
    if options.contains 'l' then
      let start := fill (number ++ toString first ++ " " ++ state)
      let others := j.processes.tail.map fun p =>
        let line := String.ofList (List.replicate number.length ' ') ++ toString p.id ++ " "
        " |\n" ++ fill line
      put (start ++ String.join others ++ "\n")
    else put (fill (number ++ state) ++ String.join (j.processes.tail.map fun _ => " | ") ++ "\n")
    if j.isDone then forget j.number

/-- Shows some jobs, or all of them. -/
def jobs : Builtin := fun _ arguments => do
  let (given, names) ← letters "lp" "" arguments
  let options := given.map (·.letter)
  if names.isEmpty then
    gather none maxRounds
    (← get).jobs.forM (showJob options)
  else names.forM fun name => do showJob options (← jobNamed (some name))
  return 0

/-- Would let a job go on, if jobs were controlled. -/
def resume : Builtin := fun _ arguments => do
  let (_, names) ← letters "" "" arguments
  let _ ← jobNamed names.head?
  fail ("job " ++ names.head?.getD "(null)" ++ " not created under job control")

/-! ## Waiting -/

/-- Waits until a job has ended, or any process if there is no job; says whether no signal has come
in between. The number bounds the rounds. -/
def waitOrSignal (job : Option Nat) : Nat → Sh Bool
  | 0 => return true
  | n + 1 => do
    let isOver ← match job with
      | some number => do pure !(← isRunning number)
      | none => pure false
    if isOver then
      gather none maxRounds
      return true
    let caught ← ask .caught
    modify (·.withCaught caught)
    let hasSignal := (← get).lastSignal.isSome
    let answer ← ask (.wait !hasSignal)
    match answer with
    | .ended process ending => do
      note job process ending
      if job.isNone then
        gather none maxRounds
        return true
      waitOrSignal job n
    | .interrupted | .running => do
      gather job maxRounds
      return false
    | .childless => return true

/-- The status that tells of a signal which has come. -/
def signalStatus : Sh Nat := do
  let caught ← ask .caught
  modify (·.withCaught caught)
  return 128 + (← get).lastSignal.getD 0

/-- Notes that a job was waited for. -/
def noteWaited (number : Nat) : Sh Unit :=
  modify fun s => match s.job? number with
    | some j => s.withJob { j with isWaited := true }
    | none => s

/-- Waits until no job runs. The number bounds the rounds. -/
def waitForAll : Nat → Sh Nat
  | 0 => return 0
  | n + 1 => do
    let s ← get
    (s.jobs.takeWhile (·.isDone)).forM fun j => noteWaited j.number
    if s.jobs.all (·.isDone) then return 0
    if ← waitOrSignal none maxRounds then waitForAll n else signalStatus

/-- Waits for jobs one after the other; gives the status of the last one. -/
def waitForEach : List String → Nat → Sh Nat
  | [], status => return status
  | name :: rest, _ => do
    let job ←
      if name.toList.head? == some '%' then pure (some (← jobNamed (some name)))
      else do
        let process ← number name
        let s ← get
        pure (s.jobs.find? fun j => (j.processes.getLast?.map (·.id)) == some process)
    match job with
    | none => waitForEach rest 127
    | some j => do
      if ← waitOrSignal (some j.number) maxRounds then
        noteWaited j.number
        waitForEach rest (← statusOf j.number)
      else signalStatus

/-- Waits for jobs. -/
def wait : Builtin := fun _ arguments => do
  let (_, names) ← letters "" "" arguments
  if names.isEmpty then waitForAll maxRounds else waitForEach names 127

/-! ## Signals -/

/-- The number of a signal that is named, or given by a number. -/
def signal? (text : String) : Option Nat :=
  (Signal.number? text).filter fun n => n != 0 || text.toList.all Char.isDigit

/-- How `kill` is used. -/
def killUsage : String :=
  "Usage: kill [-s sigspec | -signum | -sigspec] [pid | job]... or\nkill -l [exitstatus]"

/-- Tells the name of a signal, or of that behind a status; all names if there is no number. -/
def listSignals : List String → Sh Nat
  | [] => do
    put "0\n"
    (List.range Signal.last).forM fun n => put ((Signal.name? (n + 1)).getD "" ++ "\n")
    return 0
  | text :: _ => do
    let n ← number text
    let n := if 128 < n then n - 128 else n
    match if 0 < n then Signal.name? n else none with
    | some name => do
      put (name ++ "\n")
      return 0
    | none => fail ("invalid signal number or exit status: " ++ text)

/-- Sends a signal to a process, a group or a job. -/
def sendTo (signal : Nat) (target : String) : Sh Nat := do
  let answer ←
    match target.toList with
    | '%' :: _ => do
      let j ← jobNamed (some target)
      ask (.sendGroup signal ((j.processes.head?.map (·.id)).getD 0))
    | '-' :: text => do
      let group ← number (String.ofList text)
      ask (.sendGroup signal group)
    | _ => do
      let process ← number target
      if process == 0 then ask (.sendGroup signal 0) else ask (.send signal process)
  match answer with
  | .ok () => return 0
  | .error e => do
    warn (e.message ++ "\n")
    return 1

/-- Sends a signal to processes and jobs, or tells the names of signals. -/
def kill : Builtin := fun _ arguments => do
  let isOption := (arguments.head?.bind (·.toList.head?)) == some '-'
  let direct := (arguments.head?.map fun a => String.ofList a.toList.tail).bind signal?
  let (lists, signal, targets) ←
    match isOption, direct with
    | true, some n => pure (false, some n, arguments.tail)
    | true, none => do
      let (given, targets) ← letters "l" "s" arguments
      let read (_ : Option Nat) (o : LetterOption) : Sh (Option Nat) :=
        match signal? o.value with
        | some n => return some n
        | none => fail ("invalid signal number or name: " ++ o.value)
      let signal ← (given.filter (·.letter == 's')).foldlM read none
      pure (given.any (·.letter == 'l'), signal, targets)
    | false, _ => pure (false, none, arguments)
  if lists then
    if signal.isSome && !targets.isEmpty then fail killUsage else listSignals targets
  else if targets.isEmpty then fail killUsage
  else
    let statuses ← targets.mapM (sendTo (signal.getD Signal.terminate))
    return if statuses.contains 1 then 1 else 0

/-- Says to the system what becomes of a signal, unless the signal was ignored from the start. -/
def setTrap (signal : Nat) (action : Option String) : Sh Unit := do
  let s ← get
  let before := s.traps.lookup signal
  let others := s.traps.filter (·.1 != signal)
  modify fun s => { s with
    traps := match action with
      | some text => (signal, text) :: others
      | none => others }
  if signal == Signal.exit || s.deaf.contains signal then return
  let wanted : SignalAction := match action with
    | none => .default
    | some "" => if signal == Signal.childEnded then .default else .ignored
    | some _ => .caught
  let old ← ask (.setAction signal wanted)
  if old == .ignored && before != some "" then
    let _ ← ask (.setAction signal .ignored)
    modify fun s => { s with deaf := signal :: s.deaf }

/-- Says what is done about signals, up to the first one that does not exist. -/
def setTraps (action : Option String) : List String → Sh Nat
  | [] => return 0
  | text :: rest =>
    match Signal.number? text with
    | none => do
      say ("trap: " ++ text ++ ": bad trap\n")
      return 1
    | some signal => do
      setTrap signal action
      setTraps action rest

/-- Says what is done about signals, or shows that. -/
def trap : Builtin := fun _ arguments => do
  let (_, words) ← letters "" "" arguments
  match words with
  | [] => do
    let traps := (← get).traps.mergeSort fun a b => decide (a.1 ≤ b.1)
    traps.forM fun (signal, action) =>
      put ("trap -- " ++ quotedText action ++ " " ++ (Signal.name? signal).getD "" ++ "\n")
    return 0
  | [signal] => setTraps none [signal]
  | action :: signals =>
    let isNumber := !action.isEmpty && action.toList.all Char.isDigit
    if isNumber && (Signal.number? action).isSome then setTraps none words
    else setTraps (if action == "-" then none else some action) signals

/-- Tells how long the shell and its children have been computing, which is no time at all. -/
def times : Builtin := fun _ _ => do
  let line := "0m0.000000s 0m0.000000s\n"
  put (line ++ line)
  return 0

end AdapterReport.Shell.Sh
