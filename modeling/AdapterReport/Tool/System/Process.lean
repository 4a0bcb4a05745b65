import AdapterReport.Tool.Activity
import AdapterReport.Tool.System.Signal
import AdapterReport.Tool.System.SystemError

/-!
# Processes

A `Process` is a tree: it asks something of the system and goes on according to the answer, starts
another process, or ends. What it computes between two requests takes no time. `Task` is a part of a
process that gives a value to the rest of it.
-/

namespace AdapterReport

/-- How a path is opened. -/
inductive OpenMode where
  | read
  /-- For writing from the start; what was there is lost. -/
  | write
  /-- For writing behind what is there. -/
  | append
  /-- For reading and writing. -/
  | both
  /-- For writing a file that was not there before. -/
  | fresh
  deriving DecidableEq

/-- What stands at a path. -/
inductive FileKind where
  | directory
  | regular
  | device
  | pipe
  | link
  deriving DecidableEq

/-- What can be said about a file without opening it. -/
structure FileStatus where
  kind : FileKind
  size : Nat
  /-- Whether it can be run or, if it is a directory, entered. -/
  isExecutable : Bool
  /-- What makes it different from any other file. -/
  place : List EntryName
  /-- Where the reading goes on, if this is about a descriptor. -/
  position : Nat
  deriving DecidableEq

/-- What a process says about a signal. -/
inductive SignalAction where
  | default
  | ignored
  /-- The signal is kept for the process, which asks for it. -/
  | caught
  deriving DecidableEq

/-- What a process learns when it asks for a child that has ended. -/
inductive Waited where
  | ended (process : Nat) (ending : Ending)
  /-- There is no child. -/
  | childless
  /-- No child has ended yet. -/
  | running
  /-- A signal has come in between. -/
  | interrupted
  deriving DecidableEq

/-- What a process can ask of the system. -/
inductive Request where
  /-- To let time pass. -/
  | pass (time : Time)
  /-- To read some bytes, at most so many; none means that there is an end. -/
  | read (descriptor size : Nat)
  | write (descriptor : Nat) (bytes : List UInt8)
  | openPath (path : List UInt8) (mode : OpenMode)
  | close (descriptor : Nat)
  /-- To be so many bytes further back in a file; where there is no position nothing happens. -/
  | goBack (descriptor count : Nat)
  /-- To have what one descriptor stands for under another one too. -/
  | duplicate (descriptor target : Nat)
  /-- The same under the first free descriptor from some number on. -/
  | duplicateAbove (descriptor least : Nat)
  /-- A new pipe: the descriptor to read from, and the one to write to. -/
  | pipe
  | status (path : List UInt8) (follow : Bool)
  /-- The names in a directory. -/
  | names (path : List UInt8)
  | enter (path : List UInt8)
  /-- The path of the working directory. -/
  | whereabouts
  /-- The name of the program that a path leads to. -/
  | program (path : List UInt8)
  /-- To learn of a child that has ended, and to wait for that if `blocks` is set. -/
  | wait (blocks : Bool)
  | send (signal process : Nat)
  /-- To send a signal to all processes of a group; zero stands for the own group. -/
  | sendGroup (signal group : Nat)
  | setAction (signal : Nat) (action : SignalAction)
  /-- The signals that were caught since the last time. -/
  | caught
  /-- The numbers of the process and of its parent. -/
  | identity
  /-- To become another program, which keeps the descriptors below ten. -/
  | become
  deriving DecidableEq

/-- The answers to a request. -/
@[reducible]
def Request.Answer : Request → Type
  | pass _ => Unit
  | read _ _ => Except SystemError (List UInt8)
  | write _ _ => Except SystemError Unit
  | openPath _ _ => Except SystemError Nat
  | close _ => Except SystemError Unit
  | goBack _ _ => Unit
  | duplicate _ _ => Except SystemError Unit
  | duplicateAbove _ _ => Except SystemError Nat
  | pipe => Nat × Nat
  | status _ _ => Except SystemError FileStatus
  | names _ => Except SystemError (List EntryName)
  | enter _ => Except SystemError Unit
  | whereabouts => List UInt8
  | program _ => Except SystemError String
  | wait _ => Waited
  | send _ _ => Except SystemError Unit
  | sendGroup _ _ => Except SystemError Unit
  | setAction _ _ => SignalAction
  | caught => List Nat
  | identity => Nat × Nat
  | become => Unit

/-- What a process does. -/
inductive Process where
  | exit (status : UInt8)
  | ask (request : Request) (next : request.Answer → Process)
  /-- Starts a child and goes on with its number. -/
  | fork (child : Process) (next : Nat → Process)

/-- A part of a process that gives a value. -/
def Task (α : Type) : Type := (α → Process) → Process

namespace Task

instance : Monad Task where
  pure a := fun next => next a
  bind task rest := fun next => task fun a => rest a next

/-- Asks something of the system. -/
def ask (request : Request) : Task request.Answer := fun next => .ask request next

/-- Starts a child and gives its number. -/
def fork (child : Process) : Task Nat := fun next => .fork child next

/-- Ends the process. -/
def exit {α : Type} (status : UInt8) : Task α := fun _ => .exit status

/-- The process that ends with the status that a task gives. -/
def toProcess (task : Task UInt8) : Process := task .exit

end Task

end AdapterReport
