import AdapterReport.Proofs.Assembler.Effect

/-!
# Runs

A run is a list of events: calls of one assembler, and changes of what its sink does from then on.
An operation stops at its first refused write, so during one call a sink is known by how many bytes
it takes before it refuses (`Limits`); with a change before every call, runs cover every pattern of
failing writes and flushes.

`Assembler.run` gives the assembler behind the events and `Assembler.log` every call with its result
and the assemblers before and behind it. The main statement is `run_induction`: what holds of an
empty log, and is kept by a change of limits and by a call of a consistent assembler, holds of every
run.
-/

namespace AdapterReport

/-- What a sink does from now on. -/
structure Limits where
  /-- How many more bytes it takes; `none` means that it never refuses. -/
  budget : Option Nat
  /-- The reason for which it refuses then. -/
  whenFull : SinkError
  refusesFlush : Bool

/-- What happens in a run. -/
inductive Event where
  | limits (l : Limits)
  | call (c : Call)

/-- The answer to a call: its result, and the assemblers before and behind it. -/
structure Answer where
  call : Call
  before : Assembler
  result : Except AssemblyError Unit
  after : Assembler

/-- The section that a call has recorded. -/
def Answer.recorded? (x : Answer) : Option Section :=
  match x.result with
  | .ok () => x.call.added?.map x.before.placed
  | .error _ => none

namespace Assembler

/-- The assembler whose sink does something else from now on. -/
def under (l : Limits) (a : Assembler) : Assembler :=
  { a with sink := { a.sink with
      budget := l.budget, whenFull := l.whenFull, refusesFlush := l.refusesFlush } }

/-- The answer to a call. -/
def answer (a : Assembler) (c : Call) : Answer :=
  ⟨c, a, (c.perform a).1, (c.perform a).2⟩

/-- The assembler behind the events. -/
def run (a : Assembler) : List Event → Assembler
  | [] => a
  | .limits l :: rest => (a.under l).run rest
  | .call c :: rest => (c.perform a).2.run rest

/-- The calls among the events. -/
def log (a : Assembler) : List Event → List Answer
  | [] => []
  | .limits l :: rest => (a.under l).log rest
  | .call c :: rest => a.answer c :: (c.perform a).2.log rest

variable {a : Assembler} {l : Limits}

@[simp] theorem under_flushes : (a.under l).sink.flushes = a.sink.flushes := rfl

theorem consistent_start (sink : Sink) (format : Format) (m : Metadata) (settings : Settings) :
    (start sink format m settings).Consistent := rfl

theorem Consistent.perform (h : a.Consistent) (c : Call) : (c.perform a).2.Consistent :=
  (effect_perform h c).consistent h

theorem run_append (a : Assembler) (before after : List Event) :
    a.run (before ++ after) = (a.run before).run after := by
  induction before generalizing a with
  | nil => rfl
  | cons e rest ih => cases e <;> exact ih _

theorem log_append (a : Assembler) (before after : List Event) :
    a.log (before ++ after) = a.log before ++ (a.run before).log after := by
  induction before generalizing a with
  | nil => rfl
  | cons e rest ih =>
    cases e with
    | limits l => exact ih _
    | call c => exact congrArg (a.answer c :: ·) (ih _)

/-- **Induction over a run**: `P` speaks of the calls so far and of the assembler behind them. -/
theorem run_induction {P : List Answer → Assembler → Prop} (h : a.Consistent) (start : P [] a)
    (limits : ∀ done a l, P done a → P done (a.under l))
    (call : ∀ done a c, a.Consistent → P done a → P (done ++ [a.answer c]) (c.perform a).2)
    (events : List Event) : P (a.log events) (a.run events) := by
  -- the events so far have led to `a` with the log `done`
  suffices H : ∀ (events : List Event) (done : List Answer) (a : Assembler), a.Consistent →
      P done a → P (done ++ a.log events) (a.run events) from H events [] a h start
  intro events
  induction events with
  | nil =>
    intro done a _ hp
    rwa [log, List.append_nil]
  | cons e rest ih =>
    intro done a h hp
    cases e with
    | limits l => exact ih done (a.under l) h (limits done a l hp)
    | call c =>
      have := ih _ _ (h.perform c) (call done a c h hp)
      rwa [List.append_assoc] at this

theorem consistent_run (h : a.Consistent) (events : List Event) : (a.run events).Consistent :=
  run_induction (P := fun _ a => a.Consistent) h h (fun _ _ _ h => h)
    (fun _ _ c h _ => h.perform c) events

end Assembler

end AdapterReport
