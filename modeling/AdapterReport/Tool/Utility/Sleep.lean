import AdapterReport.Text.Floating
import AdapterReport.Tool.Utility.Options

/-!
# Sleep

`sleep` lets the sum of its times pass.
-/

namespace AdapterReport.Sleep

open Text (Floating)
open Utility

/-- How many seconds a unit of time has. -/
def unit? : List Char → Option Nat
  | [] | ['s'] => some 1
  | ['m'] => some 60
  | ['h'] => some 3600
  | ['d'] => some 86400
  | _ => none

/-- A time without an end. -/
def forever : Time := Nat.pow 2 60

/-- Reads a time: a number and a unit. A part of a microsecond counts as a whole one. -/
def time? (s : String) : Option Time := do
  let reading ← Floating.read? Floating.double s.toList
  let unit ← unit? reading.rest
  match reading.value with
  | .notNumber _ | .infinite true => none
  | .infinite false => some forever
  | .finite isNegative size =>
    if isNegative && !size.isZero then none
    else
      let parts := size.numerator * unit * 1000000
      some (min forever ((parts + size.denominator - 1) / size.denominator))

/-- The options. -/
def options : OptionTable := ⟨commonFlags, [], commonNames, true⟩

/-- Waits, or complains about the arguments. -/
def utility : Utility := fun name arguments =>
  let given := options.read arguments
  match given.fault, given.operands with
  | some e, _ => misused name e
  | none, operands =>
    if given.asksToTell then .exit 0
    else if arguments.isEmpty then misused name "missing operand"
    else
      match operands.mapM time? with
      | some times => .ask (.pass (times.foldl (· + ·) 0)) fun _ => .exit 0
      | none =>
        let wrong := operands.filter fun s => (time? s).isNone
        Task.toProcess do
          Task.say (String.join (wrong.map fun s =>
            name ++ ": invalid time interval " ++ Quoting.plain s ++ "\n"))
          Task.say (hint name)
          return 1

end AdapterReport.Sleep
