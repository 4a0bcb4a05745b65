import AdapterReport.Proofs.Assembler.Run

/-!
# The life cycle of an assembler

`lifecycle`: in every run, over every sink and whatever it refuses, the stage only moves forward;
the sink is held exactly while the assembler is open; the stage tells how `finish` has ended; an
operation that is not for the stage changes nothing; there is at most one flush; the metadata stay
and the sections only grow at their end.

`Course n m log a` is the invariant of a run that began with `n` flushes and the metadata `m`: the
part of these facts that speaks of the calls so far. It is kept by every rule of `Effect`
(`Course.call`).
-/

namespace AdapterReport

/-- The place of a stage in their order. -/
def Stage.rank : Stage → Nat
  | .ready => 0
  | .collecting => 1
  | .rendering => 2
  | .closed => 3

/-- The stage behind an operation that succeeds. -/
def Operation.stageBehind : Operation → Stage
  | .begin | .addSection => .collecting
  | .finish => .closed

/-- The call is a `finish` that goes over to rendering and then fails at the sink. -/
def Answer.StopsRendering (x : Answer) : Prop :=
  x.call = .finish ∧ x.before.stage.isOpen = true ∧ x.after.stage = .rendering ∧
    ∃ e, x.result = .error (.sink e)

/-- The call is a `finish` that succeeds. -/
def Answer.Closes (x : Answer) : Prop :=
  x.call = .finish ∧ x.result = .ok ()

namespace Assembler

variable {a a' : Assembler} {c : Call} {r : Except AssemblyError Unit}

/-! ## One call -/

theorem rank_of_open {stage : Stage} (h : stage.isOpen = true) : stage.rank ≤ 1 := by
  cases stage <;> simp_all [Stage.isOpen, Stage.rank]

theorem Effect.rank_le (he : Effect a c r a') : a.stage.rank ≤ a'.stage.rank := by
  cases he with
  | refused _ => exact Nat.le_refl _
  | headCut _ _ _ => exact Nat.le_refl _
  | begun hr _ => rw [hr]; exact Nat.zero_le _
  | sectionCut _ hopen _ _ => exact rank_of_open hopen
  | added _ hopen _ => exact rank_of_open hopen
  | tailCut hopen _ _ => exact Nat.le_succ_of_le (rank_of_open hopen)
  | flushRefused hopen _ _ => exact Nat.le_succ_of_le (rank_of_open hopen)
  | closed hopen _ _ => exact Nat.le_trans (rank_of_open hopen) (Nat.le_add_left 1 2)

/-- A call that is refused for the stage is not for the stage, and changes nothing. -/
theorem Effect.of_wrongStage {operation : Operation} {stage : Stage}
    (he : Effect a c (.error (.wrongStage operation stage)) a') :
    a' = a ∧ operation = c.operation ∧ stage = a.stage ∧ c.isPermitted a.stage = false := by
  cases he with
  | refused h => exact ⟨rfl, rfl, rfl, h⟩

theorem isPermitted_of_not_open {stage : Stage} (h : stage.isOpen = false) (c : Call) :
    c.isPermitted stage = false := by
  cases hp : c.isPermitted stage with
  | false => rfl
  | true =>
    rw [isOpen_of_isPermitted hp] at h
    cases h

/-- Behind its end an assembler refuses every call. -/
theorem Effect.of_not_open (he : Effect a c r a') (hopen : a.stage.isOpen = false) :
    r = .error (.wrongStage c.operation a.stage) ∧ a' = a :=
  he.of_not_permitted (isPermitted_of_not_open hopen c)

theorem perform_of_not_open (h : a.Consistent) (hopen : a.stage.isOpen = false) (c : Call) :
    c.perform a = (.error (.wrongStage c.operation a.stage), a) := by
  obtain ⟨hr, ha⟩ := (effect_perform h c).of_not_open hopen
  exact Prod.ext hr ha

theorem Effect.metadata (he : Effect a c r a') : a'.report.metadata = a.report.metadata := by
  cases he <;> rfl

theorem Effect.sections_grow (he : Effect a c r a') :
    a.report.sections <+: a'.report.sections := by
  cases he with
  | added _ _ _ => exact List.prefix_append _ _
  | _ => exact List.prefix_rfl

/-- A call that leaves the assembler open asks for no flush, and the last one for one at most. -/
theorem Effect.flushes (he : Effect a c r a') :
    a'.sink.flushes = a.sink.flushes ∨
      a.stage.isOpen = true ∧ a'.stage.isOpen = false ∧ a'.sink.flushes = a.sink.flushes + 1 := by
  cases he with
  | flushRefused hopen _ _ => exact .inr ⟨hopen, rfl, rfl⟩
  | closed hopen _ _ => exact .inr ⟨hopen, rfl, rfl⟩
  | _ => exact .inl rfl

theorem Effect.closed_iff (he : Effect a c r a') :
    a'.stage = .closed ↔ a.stage = .closed ∨ c = .finish ∧ r = .ok () := by
  cases he with
  | refused _ => simp
  | headCut _ hr _ => simp [hr]
  | begun hr _ => simp [hr]
  | sectionCut hc hopen _ _ => cases hs : a.stage <;> simp_all [Stage.isOpen]
  | added hc hopen _ =>
    have hne : c ≠ .finish := fun he => by subst he; simp [Call.added?] at hc
    cases hs : a.stage <;> simp_all [Stage.isOpen]
  | tailCut hopen _ _ => cases hs : a.stage <;> simp_all [Stage.isOpen]
  | flushRefused hopen _ _ => cases hs : a.stage <;> simp_all [Stage.isOpen]
  | closed _ _ _ => simp

theorem Effect.rendering_iff (he : Effect a c r a') :
    a'.stage = .rendering ↔ a.stage = .rendering ∨
      c = .finish ∧ a.stage.isOpen = true ∧ a'.stage = .rendering ∧ ∃ e, r = .error (.sink e) := by
  cases he with
  | refused _ => simp
  | headCut _ hr _ => simp [hr]
  | begun hr _ => simp [hr]
  | sectionCut hc hopen _ _ => cases hs : a.stage <;> simp_all [Stage.isOpen]
  | added hc hopen _ => cases hs : a.stage <;> simp_all [Stage.isOpen]
  | tailCut hopen _ _ => simp [hopen]
  | flushRefused hopen _ _ => simp [hopen]
  | closed hopen _ _ => cases hs : a.stage <;> simp_all [Stage.isOpen]

/-- A call that is for the stage succeeds over a sink that refuses nothing. -/
theorem Effect.of_unlimited (he : Effect a c r a') (hp : c.isPermitted a.stage = true)
    (hbudget : a.sink.budget = none) (hflush : a.sink.refusesFlush = false) :
    r = .ok () ∧ a'.stage = c.operation.stageBehind := by
  have hfits (bs : List UInt8) : a.sink.fits bs ≠ false := by
    rw [Sink.fits_of_budget_none hbudget]
    decide
  cases he with
  | refused h => rw [h] at hp; cases hp
  | headCut _ _ h => exact absurd h (hfits _)
  | begun _ _ => exact ⟨rfl, rfl⟩
  | sectionCut _ _ _ h => exact absurd h (hfits _)
  | added hc _ _ => rw [Call.operation_of_added hc]; exact ⟨rfl, rfl⟩
  | tailCut _ _ h => exact absurd h (hfits _)
  | flushRefused _ _ h => rw [hflush] at h; cases h
  | closed _ _ _ => exact ⟨rfl, rfl⟩

/-! ## A run -/

/-- What the calls so far and the assembler behind them have to do with each other. -/
structure Course (n : Nat) (m : Metadata) (log : List Answer) (a : Assembler) : Prop where
  closed : a.stage = .closed ↔ ∃ x ∈ log, x.Closes
  rendering : a.stage = .rendering ↔ ∃ x ∈ log, x.StopsRendering
  flushes : a.sink.flushes ≤ n + if a.stage.isOpen then 0 else 1
  metadata : a.report.metadata = m

theorem Course.start (sink : Sink) (format : Format) (m : Metadata) (settings : Settings) :
    Course sink.flushes m [] (.start sink format m settings) where
  closed := by simp [Assembler.start]
  rendering := by simp [Assembler.start]
  flushes := Nat.le_refl _
  metadata := rfl

theorem Course.under {n : Nat} {m : Metadata} {log : List Answer} (h : Course n m log a)
    (l : Limits) : Course n m log (a.under l) :=
  ⟨h.closed, h.rendering, h.flushes, h.metadata⟩

theorem Course.call {n : Nat} {m : Metadata} {log : List Answer} (hs : a.Consistent)
    (h : Course n m log a) (c : Call) : Course n m (log ++ [a.answer c]) (c.perform a).2 := by
  have he := effect_perform hs c
  refine ⟨?_, ?_, ?_, he.metadata.trans h.metadata⟩
  · rw [he.closed_iff, h.closed]
    simp [or_and_right, exists_or, Answer.Closes, answer]
  · rw [he.rendering_iff, h.rendering]
    simp [or_and_right, exists_or, Answer.StopsRendering, answer]
  · have hn := h.flushes
    rcases he.flushes with heq | ⟨hopen, hclosed, heq⟩
    · -- an assembler that was not open is not open now
      rw [heq]
      cases hopen : a.stage.isOpen with
      | true => rw [hopen] at hn; simp at hn; omega
      | false => rw [(he.of_not_open hopen).2, hopen]; simpa [hopen] using hn
    · rw [heq, hclosed]
      simp [hopen] at hn ⊢
      exact hn

theorem course_run (sink : Sink) (format : Format) (m : Metadata) (settings : Settings)
    (events : List Event) :
    Course sink.flushes m ((start sink format m settings).log events)
      ((start sink format m settings).run events) :=
  run_induction (consistent_start sink format m settings) (.start sink format m settings)
    (fun _ _ l h => h.under l) (fun _ _ c hs h => h.call hs c) events

/-- **The life cycle**: what holds of an assembler behind any events and of its next call. -/
theorem lifecycle (sink : Sink) (format : Format) (m : Metadata) (settings : Settings)
    (events : List Event) :
    let a := (start sink format m settings).run events
    let log := (start sink format m settings).log events
    (a.holdsSink = true ↔ a.stage = .ready ∨ a.stage = .collecting) ∧
    (∀ c : Call, a.stage.rank ≤ (c.perform a).2.stage.rank) ∧
    (a.stage = .closed ↔ ∃ x ∈ log, x.call = .finish ∧ x.result = .ok ()) ∧
    (a.stage = .rendering ↔ ∃ x ∈ log, x.StopsRendering) ∧
    (a.stage = .rendering ∨ a.stage = .closed →
      ∀ c : Call, c.perform a = (.error (.wrongStage c.operation a.stage), a)) ∧
    (∀ (c : Call) (operation : Operation) (stage : Stage),
      (c.perform a).1 = .error (.wrongStage operation stage) →
        (c.perform a).2 = a ∧ operation = c.operation ∧ stage = a.stage ∧
          c.isPermitted a.stage = false) ∧
    (∀ c : Call, c.isPermitted a.stage = true → a.sink.budget = none →
      a.sink.refusesFlush = false →
        (c.perform a).1 = .ok () ∧ (c.perform a).2.stage = c.operation.stageBehind) ∧
    a.sink.flushes ≤ sink.flushes + 1 ∧
    a.report.metadata = m ∧
    ∀ c : Call, a.report.sections <+: (c.perform a).2.report.sections := by
  intro a log
  have hs : a.Consistent := consistent_run (consistent_start sink format m settings) events
  have hcourse : Course sink.flushes m log a := course_run sink format m settings events
  refine ⟨?_, fun c => (effect_perform hs c).rank_le, hcourse.closed, hcourse.rendering, ?_, ?_,
    fun c => (effect_perform hs c).of_unlimited, ?_, hcourse.metadata,
    fun c => (effect_perform hs c).sections_grow⟩
  · rw [hs]
    cases a.stage <;> simp [Stage.isOpen]
  · intro hend c
    exact perform_of_not_open hs (by rcases hend with h | h <;> rw [h] <;> rfl) c
  · intro c operation stage h
    have he := effect_perform hs c
    rw [h] at he
    exact he.of_wrongStage
  · have := hcourse.flushes
    split at this <;> omega

end Assembler

end AdapterReport
