import AdapterReport.Text.Utf8

/-!
# Bounded captures

A `Capture` keeps the first bytes of what a tool writes, up to a limit, and remembers whether there
were more. How the bytes are cut into pieces makes no difference. `drain` takes what still waits in
the pipe of a tool that has ended.
-/

namespace AdapterReport

/-- The first bytes of what was written. -/
structure Capture where
  /-- The greatest number of bytes that are kept. -/
  limit : Nat
  kept : Array UInt8
  /-- Whether something was left out. -/
  truncated : Bool
  deriving DecidableEq

namespace Capture

/-- A capture of nothing yet. -/
def empty (limit : Nat) : Capture := ⟨limit, #[], false⟩

/-- How many more bytes there is room for. -/
def room (c : Capture) : Nat := c.limit - c.kept.size

/-- Takes a piece of what was written, as far as there is room. -/
def push (c : Capture) (piece : List UInt8) : Capture :=
  { c with
    kept := c.kept ++ (piece.take c.room).toArray
    truncated := c.truncated || decide (c.room < piece.length) }

/-- The greatest number of bytes that are taken out of a pipe at once. -/
def chunkSize : Nat := 8192

/-- Takes what waits in a pipe chunk by chunk, until something is left out or nothing waits. -/
def drain (c : Capture) (waiting : List UInt8) : Capture :=
  if c.truncated ∨ waiting = [] then c
  else (c.push (waiting.take chunkSize)).drain (waiting.drop chunkSize)
termination_by waiting.length
decreasing_by
  have hpos : 0 < waiting.length := List.length_pos_iff.mpr (mt Or.inr ‹_›)
  rw [List.length_drop, chunkSize]
  omega

/-- The bytes kept. -/
def bytes (c : Capture) : List UInt8 := c.kept.toList

/-- The bytes kept as text. -/
def text (c : Capture) : String := Text.Utf8.decodeLossy c.bytes

end Capture

end AdapterReport
