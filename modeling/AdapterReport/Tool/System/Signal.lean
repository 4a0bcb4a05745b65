import AdapterReport.Text.LowerCase

/-!
# Signals

The signals by their numbers, and what becomes of a process that receives one.
-/

namespace AdapterReport

/-- What a signal does to a process that has said nothing about it. -/
inductive SignalEffect where
  | ends
  | stops
  | resumes
  | nothing
  deriving DecidableEq

/-- A signal that has a name of its own. -/
structure Signal where
  number : Nat
  name : String
  /-- What is said about a process that it has ended. -/
  description : String
  effect : SignalEffect
  deriving DecidableEq

namespace Signal

/-- The signals, in the order of their numbers. -/
def all : List Signal :=
  [⟨1, "HUP", "Hangup", .ends⟩, ⟨2, "INT", "Interrupt", .ends⟩, ⟨3, "QUIT", "Quit", .ends⟩,
    ⟨4, "ILL", "Illegal instruction", .ends⟩, ⟨5, "TRAP", "Trace/breakpoint trap", .ends⟩,
    ⟨6, "ABRT", "Aborted", .ends⟩, ⟨7, "BUS", "Bus error", .ends⟩,
    ⟨8, "FPE", "Floating point exception", .ends⟩, ⟨9, "KILL", "Killed", .ends⟩,
    ⟨10, "USR1", "User defined signal 1", .ends⟩, ⟨11, "SEGV", "Segmentation fault", .ends⟩,
    ⟨12, "USR2", "User defined signal 2", .ends⟩, ⟨13, "PIPE", "Broken pipe", .ends⟩,
    ⟨14, "ALRM", "Alarm clock", .ends⟩, ⟨15, "TERM", "Terminated", .ends⟩,
    ⟨16, "16", "Stack fault", .ends⟩, ⟨17, "CHLD", "Child exited", .nothing⟩,
    ⟨18, "CONT", "Continued", .resumes⟩, ⟨19, "STOP", "Stopped (signal)", .stops⟩,
    ⟨20, "TSTP", "Stopped", .stops⟩, ⟨21, "TTIN", "Stopped (tty input)", .stops⟩,
    ⟨22, "TTOU", "Stopped (tty output)", .stops⟩,
    ⟨23, "URG", "Urgent I/O condition", .nothing⟩,
    ⟨24, "XCPU", "CPU time limit exceeded", .ends⟩,
    ⟨25, "XFSZ", "File size limit exceeded", .ends⟩,
    ⟨26, "VTALRM", "Virtual timer expired", .ends⟩,
    ⟨27, "PROF", "Profiling timer expired", .ends⟩, ⟨28, "WINCH", "Window changed", .nothing⟩,
    ⟨29, "IO", "I/O possible", .ends⟩, ⟨30, "PWR", "Power failure", .ends⟩,
    ⟨31, "SYS", "Bad system call", .ends⟩]

/-- The number that stands for the end of a shell. -/
def exit : Nat := 0

/-- The number of the signal of the keyboard. -/
def interrupt : Nat := 2

/-- The number of the signal of the keyboard that asks for an image of the process. -/
def quit : Nat := 3

/-- The number of the signal that no process can refuse. -/
def kill : Nat := 9

/-- The number of the signal for those who write what nobody can read. -/
def pipe : Nat := 13

/-- The number of the signal that asks a process to end. -/
def terminate : Nat := 15

/-- The number of the signal for those of whom a child has ended. -/
def childEnded : Nat := 17

/-- The number of the signal that stops a process and that it cannot refuse. -/
def stop : Nat := 19

/-- The first and the last number of the signals without a meaning of their own. -/
def freeFirst : Nat := 34

/-- The last number of all signals. -/
def last : Nat := 64

/-- The signal of a number. -/
def ofNumber? (number : Nat) : Option Signal :=
  all.find? (·.number == number)

/-- The name of a number. -/
def name? (number : Nat) : Option String :=
  match ofNumber? number with
  | some g => some g.name
  | none =>
    if number == exit then some "EXIT"
    else if last < number then none
    else if number < freeFirst then some (toString number)
    else if number == freeFirst then some "RTMIN"
    else if number == last then some "RTMAX"
    else if number < 50 then some ("RTMIN+" ++ toString (number - freeFirst))
    else some ("RTMAX-" ++ toString (last - number))

/-- The number of a signal that is given by its number or its name. -/
def number? (s : String) : Option Nat :=
  let lower := Text.lowerLatin s
  if s.isEmpty then none
  else if s.toList.all Char.isDigit then s.toNat?.filter (· ≤ last)
  else (List.range (last + 1)).find? fun n => (name? n).map Text.lowerLatin == some lower

/-- What a signal does to a process that has said nothing about it. -/
def effectOf (number : Nat) : SignalEffect :=
  ((ofNumber? number).map (·.effect)).getD (if number == exit then .nothing else .ends)

/-- What is said about a process that a signal has ended. -/
def describe (number : Nat) : String :=
  match ofNumber? number with
  | some g => g.description
  | none =>
    if freeFirst ≤ number then "Real-time signal " ++ toString (number - freeFirst)
    else "Unknown signal " ++ toString number

end Signal

end AdapterReport
