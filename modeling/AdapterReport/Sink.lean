import AdapterReport.Text.Utf8

/-!
# Sinks

A `Sink` takes bytes while its budget lasts, also a part of a text, and then refuses more. It may
refuse to flush as well. What it has taken stays written.
-/

namespace AdapterReport

/-- Why a sink refuses. -/
inductive SinkError where
  /-- The budget is used up. -/
  | full
  /-- The device has no room at all. -/
  | noSpace
  /-- The sink does not flush. -/
  | flushRefused
  deriving DecidableEq

/-- What is said about a sink that refuses. -/
def SinkError.message : SinkError → String
  | .full => "sink full"
  | .noSpace => "No space left on device (os error 28)"
  | .flushRefused => "flush refused"

/-- A place where bytes are written. -/
structure Sink where
  /-- The bytes taken so far. -/
  written : List UInt8
  /-- How many more bytes the sink takes; `none` means that it never refuses. -/
  budget : Option Nat
  /-- The reason for which it refuses then. -/
  whenFull : SinkError
  refusesFlush : Bool
  /-- How often a flush was asked for. -/
  flushes : Nat
  deriving DecidableEq

namespace Sink

/-- A sink that nothing was written to, and that never refuses. -/
def unlimited : Sink := ⟨[], none, .full, false, 0⟩

/-- Writes a text, as far as the budget goes. -/
def write (s : Sink) (text : String) : Except SinkError Unit × Sink :=
  let bytes := Text.Utf8.encode text
  match s.budget with
  | none => (.ok (), { s with written := s.written ++ bytes })
  | some budget =>
    let taken :=
      { s with written := s.written ++ bytes.take budget, budget := some (budget - bytes.length) }
    if bytes.length ≤ budget then (.ok (), taken) else (.error s.whenFull, taken)

/-- Writes texts one after the other, up to the first one that is refused. -/
def writeAll (s : Sink) : List String → Except SinkError Unit × Sink
  | [] => (.ok (), s)
  | text :: rest =>
    match s.write text with
    | (.ok (), s) => s.writeAll rest
    | (.error e, s) => (.error e, s)

/-- Asks for a flush. -/
def flush (s : Sink) : Except SinkError Unit × Sink :=
  (if s.refusesFlush then .error .flushRefused else .ok (), { s with flushes := s.flushes + 1 })

/-- The text of all bytes taken. -/
def text (s : Sink) : String :=
  Text.Utf8.decodeLossy s.written

end Sink

end AdapterReport
