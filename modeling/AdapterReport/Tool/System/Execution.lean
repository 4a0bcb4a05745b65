import AdapterReport.Tool.System.Machine

/-!
# Execution

A machine goes on step by step: of the processes that are ready, the one goes on whose time comes
first. `Machine.activity` is what can be seen of it while the first process is watched.
-/

namespace AdapterReport.Machine

/-- Of two processes the one that has waited longer, the first one if both have. -/
def earlier (best : Option Running) (p : Running) : Option Running :=
  match best with
  | some b => if p.wake < b.wake then some p else some b
  | none => some p

/-- The process that goes on next: of those that are ready, one that has waited longest. -/
def chosen? (m : Machine) : Option Running :=
  (m.running.filter m.ready).foldl earlier none

/-- The machine at a later time. -/
def advanced (m : Machine) (time : Time) : Machine := { m with now := max m.now time }

/-- The first process is asked to end. -/
def ask (m : Machine) (time : Time) : Machine :=
  match m.process? first with
  | some p => (m.advanced time).deliver Signal.terminate p
  | none => m

/-- When nothing of a machine counts any more. -/
def limit (w : Watch) (m : Machine) : Time :=
  match m.outcome with
  | some (ended, _) => ended + w.after
  | none => w.last

/-- Goes on until nothing counts any more. The first process is asked to end when its time comes.
The number bounds the steps; a machine that has taken all of them is busy from then on. -/
def run (w : Watch) : Nat → Bool → Machine → Machine
  | 0, asked, m => if asked || m.outcome.isSome then m else m.ask w.asked
  | n + 1, asked, m =>
    let asked := asked || m.outcome.isSome
    match m.chosen? with
    | some p =>
      if !asked && w.asked ≤ max m.now p.wake then run w n true (m.ask w.asked)
      else if max m.now p.wake < m.limit w then run w n asked ((m.advanced p.wake).perform p)
      else m
    | none => if asked then m else run w n true (m.ask w.asked)

/-- More steps than a tool takes that is not busy all the time. -/
def maxSteps : Nat := 4000000

/-- A machine with one process that reads nothing and writes to the two channels. -/
def start (files : FileTree) (code : Process) : Machine where
  now := 0
  files := files
  running :=
    [{ id := first
       parent := first - 1
       code := code
       wake := startTime
       descriptors := [(0, ⟨.void, true, true⟩), (1, ⟨.channel .output, false, true⟩),
         (2, ⟨.channel .errors, false, true⟩)]
       actions := []
       caught := []
       interrupted := false
       stopped := false
       delayed := []
       fatal := none
       working := files.working }]
  dead := []
  pipes := []
  opened := []
  written := []
  next := first + 1
  outcome := none

/-- What can be seen of a process while it is watched. -/
def activity (files : FileTree) (code : Process) (w : Watch) : Activity :=
  let m := run w maxSteps false (start files code)
  ⟨m.written.reverse, m.outcome⟩

end AdapterReport.Machine
