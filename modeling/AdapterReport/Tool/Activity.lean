import AdapterReport.Text.Utf8

/-!
# What a program does

A `Program` is known by what can be seen of it: what it writes, when, and how it ends. It may be
asked to end at some time; what it makes of that is its own affair.
-/

namespace AdapterReport

/-- Microseconds since the program was started. -/
abbrev Time := Nat

/-- Milliseconds as a time. -/
def Time.ofMilliseconds (n : Nat) : Time := n * 1000

/-- Where a program writes. -/
inductive Channel where
  | output
  | errors
  deriving DecidableEq

/-- Something that a program writes. -/
structure Write where
  time : Time
  channel : Channel
  data : List UInt8
  deriving DecidableEq

/-- How a program ends. -/
inductive Ending where
  /-- By itself, with a status. -/
  | exited (status : UInt8)
  /-- By a signal. -/
  | killed (signal : Nat)
  deriving DecidableEq

/-- The status of a program that has ended by itself. -/
def Ending.status? : Ending → Option UInt8
  | exited status => status
  | killed _ => none

/-- What can be seen of a program. -/
structure Activity where
  /-- What it writes, in the order of time. -/
  writes : List Write
  /-- When and how it ends; `none` if it never does by itself. -/
  finish : Option (Time × Ending)
  deriving DecidableEq

namespace Activity

/-- What is written to a channel from some time on and before another one, piece by piece. -/
def written (a : Activity) (channel : Channel) (start stop : Time) : List (List UInt8) :=
  (a.writes.filter fun w => w.channel == channel && start ≤ w.time && w.time < stop).map (·.data)

/-- How the program ends, if it does so before some time. -/
def endingBefore? (a : Activity) (time : Time) : Option Ending :=
  a.finish.bind fun (ended, ending) => if ended < time then some ending else none

end Activity

/-- For how long a program is watched. -/
structure Watch where
  /-- When it is asked to end. -/
  asked : Time
  /-- When nobody waits for its end any more. -/
  last : Time
  /-- For how long what it has left behind may write behind its end. -/
  after : Time
  deriving DecidableEq

/-- What a program does while it is watched. -/
abbrev Program := Watch → Activity

/-- A program that only prints a text. -/
def Program.printing (text : String) (status : UInt8) : Program := fun _ =>
  ⟨[⟨0, .output, Text.Utf8.encode text⟩], some (0, .exited status)⟩

end AdapterReport
