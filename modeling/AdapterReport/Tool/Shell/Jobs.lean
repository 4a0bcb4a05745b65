import AdapterReport.Tool.Shell.Session

/-!
# Jobs

A shell knows the processes that it has started as jobs. It learns how they end when it waits for
them; a job that has ended keeps its number until the shell has waited for it or has told of it.
-/

namespace AdapterReport.Shell

namespace Ending

/-- The status that stands for an end. -/
def status : Ending → Nat
  | .exited status => status.toNat
  | .killed signal => 128 + signal

/-- What is said about an end for which a shell has waited. -/
def remark? : Ending → Option String
  | .exited _ => none
  | .killed signal =>
    if signal == Signal.interrupt || signal == Signal.pipe then none
    else some (Signal.describe signal)

/-- How an end is shown in a list of jobs. -/
def shown : Ending → String
  | .exited 0 => "Done"
  | .exited status => "Done(" ++ toString status.toNat ++ ")"
  | .killed signal => Signal.describe signal

end Ending

namespace Session

/-- The job of a number. -/
def job? (s : Session) (number : Nat) : Option Job := s.jobs.find? (·.number == number)

/-- The session with a job as it is now. -/
def withJob (s : Session) (j : Job) : Session :=
  { s with jobs := s.jobs.map fun old => if old.number == j.number then j else old }

/-- The session without a job. -/
def withoutJob (s : Session) (number : Nat) : Session :=
  { s with jobs := s.jobs.filter (·.number != number) }

/-- The first number that no job needs. -/
def freeNumber (s : Session) : Nat :=
  let isFree (n : Nat) : Bool := match s.job? n with
    | some j => j.isDone && j.isWaited
    | none => true
  (((List.range (s.jobs.length + 1)).map (· + 1)).find? isFree).getD (s.jobs.length + 1)

end Session

namespace Sh

/-- More rounds than any loop of a shell takes. -/
def maxRounds : Nat := 1000000000

/-- A new job without a process. -/
def newJob : Sh Nat := do
  let number := (← get).freeNumber
  modify fun s =>
    let s := s.withoutJob number
    { s with jobs := ⟨number, [], false⟩ :: s.jobs }
  return number

/-- Counts a process to a job. -/
def addProcess (number process : Nat) : Sh Unit :=
  modify fun s => match s.job? number with
    | some j => s.withJob { j with processes := j.processes ++ [⟨process, none⟩] }
    | none => s

/-- Forgets a job. -/
def forget (number : Nat) : Sh Unit := modify (·.withoutJob number)

/-- Notes how a process has ended, and says so if it belongs to the job that is waited for. -/
def note (watched : Option Nat) (process : Nat) (ending : Ending) : Sh Unit := do
  let s ← get
  let isIt (p : JobProcess) : Bool := p.id == process
  match s.jobs.find? fun j => !j.isDone && j.processes.any isIt with
  | none => return
  | some j => do
    let noted (p : JobProcess) : JobProcess :=
      if isIt p then { p with ending := some ending } else p
    modify fun s => s.withJob { j with processes := j.processes.map noted }
    if watched == some j.number then
      match Ending.remark? ending with
      | some remark => say (remark ++ "\n")
      | none => return

/-- Learns of the processes that have ended by now. The number bounds them. -/
def gather (watched : Option Nat) : Nat → Sh Unit
  | 0 => return
  | n + 1 => do
    match ← ask (.wait false) with
    | .ended process ending => do
      note watched process ending
      gather watched n
    | _ => return

/-- Whether a job is running. -/
def isRunning (number : Nat) : Sh Bool := do
  return ((← get).job? number).any (!·.isDone)

/-- Waits until a job has ended. Signals do not interrupt that. The number bounds the rounds. -/
def waitUntilDone (number : Nat) : Nat → Sh Unit
  | 0 => return
  | n + 1 => do
    if ← isRunning number then
      match ← ask (.wait true) with
      | .ended process ending => do
        note (some number) process ending
        waitUntilDone number n
      | .interrupted => waitUntilDone number n
      | .childless | .running => return
    else gather none maxRounds

/-- The status of a job that has ended. -/
def statusOf (number : Nat) : Sh Nat := do
  return ((((← get).job? number).bind Job.ending?).map Ending.status).getD 0

/-- Waits for a job and forgets it; gives its status. -/
def waitFor (number : Nat) : Sh Nat := do
  waitUntilDone number maxRounds
  let status ← statusOf number
  forget number
  return status

/-- How a process is started. -/
inductive StartKind where
  /-- The shell waits for it. -/
  | waited
  /-- It runs beside the shell. -/
  | beside
  deriving DecidableEq

/-- What a process of its own does before anything else: it forgets what is done about signals and
which jobs there are. -/
def settle (kind : StartKind) (isFirst : Bool) : Sh Unit := do
  let s ← get
  s.traps.forM fun (signal, action) => do
    if !action.isEmpty && signal != Signal.exit then
      let _ ← ask (.setAction signal .default)
  modify fun s => { s with
    traps := s.traps.filter (·.2.isEmpty), jobs := [], kept := []
    signalled := [], lastSignal := none, reached := 1 }
  if kind == .beside then
    let _ ← ask (.setAction Signal.interrupt .ignored)
    let _ ← ask (.setAction Signal.quit .ignored)
    modify fun s => { s with deaf := [Signal.interrupt, Signal.quit] ++ s.deaf }
    if isFirst then
      let _ ← ask (.close Task.input)
      let _ ← ask (.openPath (Text.ByteText.toBytes "/dev/null") .read)

/-- Starts a process of a job. -/
def start (kind : StartKind) (job : Nat) (body : Sh Unit) : Sh Unit := do
  let isFirst := ((← get).job? job).any (·.processes.isEmpty)
  let process ← fork (toProcess do
    settle kind isFirst
    body)
  addProcess job process
  if kind == .beside then modify fun s => { s with beside := some process }

end Sh

end AdapterReport.Shell
