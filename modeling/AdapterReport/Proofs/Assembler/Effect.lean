import AdapterReport.Proofs.Assembler.Call

/-!
# The effect of a call

`Effect a c r a'` has one rule for each way through the call `c` of an assembler `a` that holds its
sink exactly while it is open (`Consistent`): `r` is the result, `a'` the assembler behind the call.
A call has the effect of one of the rules (`effect_perform`), only the first one is for a call that
is not for the stage (`Effect.of_not_permitted`), and every rule keeps the assembler consistent
(`Effect.consistent`). What holds of every call is proved of the rules.
-/

namespace AdapterReport

namespace Assembler

/-- The assembler holds its sink exactly while it is open. -/
def Consistent (a : Assembler) : Prop :=
  a.holdsSink = a.stage.isOpen

/-- What a call does. -/
inductive Effect (a : Assembler) : Call → Except AssemblyError Unit → Assembler → Prop
  /-- The call is not for this stage. -/
  | refused {c : Call} : c.isPermitted a.stage = false →
      Effect a c (.error (.wrongStage c.operation a.stage)) a
  /-- The head is not written in full. -/
  | headCut {c : Call} : c.isPermitted a.stage = true → a.stage = .ready →
      a.sink.fits a.pendingBytes = false →
      Effect a c (.error (.sink a.sink.whenFull)) (a.accept a.pendingBytes)
  | begun : a.stage = .ready → a.sink.fits a.pendingBytes = true → Effect a .begin (.ok ()) a.begun
  /-- The section is not written in full. -/
  | sectionCut {c : Call} {s : Section} : c.added? = some s → a.stage.isOpen = true →
      a.sink.fits a.pendingBytes = true → a.sink.fits (a.pendingBytes ++ a.sectionBytes s) = false →
      Effect a c (.error (.sink a.sink.whenFull)) (a.begun.accept (a.sectionBytes s))
  | added {c : Call} {s : Section} : c.added? = some s → a.stage.isOpen = true →
      a.sink.fits (a.pendingBytes ++ a.sectionBytes s) = true →
      Effect a c (.ok ())
        { a.begun.accept (a.sectionBytes s) with report := a.report.push (a.placed s) }
  /-- The tail is not written in full. -/
  | tailCut : a.stage.isOpen = true → a.sink.fits a.pendingBytes = true →
      a.sink.fits (a.pendingBytes ++ a.tailBytes) = false →
      Effect a .finish (.error (.sink a.sink.whenFull)) (a.closing.accept a.tailBytes)
  | flushRefused : a.stage.isOpen = true → a.sink.fits (a.pendingBytes ++ a.tailBytes) = true →
      a.sink.refusesFlush = true →
      Effect a .finish (.error (.sink .flushRefused)) (a.closing.accept a.tailBytes).flushed
  | closed : a.stage.isOpen = true → a.sink.fits (a.pendingBytes ++ a.tailBytes) = true →
      a.sink.refusesFlush = false →
      Effect a .finish (.ok ()) { (a.closing.accept a.tailBytes).flushed with stage := .closed }

variable {a a' : Assembler} {c : Call} {r : Except AssemblyError Unit}

/-! ## Which calls are for which stage -/

theorem isPermitted_of_added {s : Section} (h : c.added? = some s) (stage : Stage) :
    c.isPermitted stage = stage.isOpen := by
  simp [Call.isPermitted, Call.operation_of_added h]

theorem isOpen_of_isPermitted {stage : Stage} (h : c.isPermitted stage = true) :
    stage.isOpen = true := by
  unfold Call.isPermitted at h
  split at h
  · rw [of_decide_eq_true h]; rfl
  · exact h
  · exact h

/-- Only a head that is still to be written can fail to fit. -/
theorem ready_of_not_fits (h : a.sink.fits a.pendingBytes = false) : a.stage = .ready := by
  unfold pendingBytes at h
  split at h
  · assumption
  · simp at h

/-- The head fits if more than the head does. -/
theorem fits_pending {bs : List UInt8} (h : a.sink.fits (a.pendingBytes ++ bs) = true) :
    a.sink.fits a.pendingBytes = true := by
  rw [Sink.fits_append, Bool.and_eq_true] at h
  exact h.1

/-! ## Every call has an effect -/

theorem effect_begin (h : a.Consistent) : Effect a .begin a.begin.1 a.begin.2 := by
  by_cases hr : a.stage = .ready
  · have hs : a.holdsSink = true := by rw [h, hr]; rfl
    rw [begin_of_ready hr hs]
    split
    · rename_i hfit
      exact .begun hr hfit
    · rename_i hfit
      exact .headCut (by simp [Call.isPermitted, Call.operation, hr]) hr (by simpa using hfit)
  · rw [begin_of_not_ready hr]
    exact .refused (by simp [Call.isPermitted, Call.operation, hr])

theorem effect_addSection (h : a.Consistent) {s : Section} (hc : c.added? = some s) :
    Effect a c (a.addSection s).1 (a.addSection s).2 := by
  have hperm := isPermitted_of_added hc a.stage
  cases hopen : a.stage.isOpen with
  | false =>
    rw [addSection_of_not_open hopen, ← Call.operation_of_added hc]
    exact .refused (hperm.trans hopen)
  | true =>
    have hs : a.holdsSink = true := h.trans hopen
    cases hfit : a.sink.fits a.pendingBytes with
    | false =>
      have hcut : a.addSection s = (.error (.sink a.sink.whenFull), a.accept a.pendingBytes) := by
        rw [addSection, ensureBegun_of_open hopen hs, hfit]
        rfl
      rw [hcut]
      exact .headCut (hperm.trans hopen) (ready_of_not_fits hfit) hfit
    | true =>
      rw [addSection_of_open hopen hs hfit]
      split
      · rename_i hall
        exact .added hc hopen hall
      · rename_i hall
        exact .sectionCut hc hopen hfit (by simpa using hall)

theorem effect_finish (h : a.Consistent) : Effect a .finish a.finish.1 a.finish.2 := by
  cases hopen : a.stage.isOpen with
  | false =>
    rw [finish_of_not_open hopen]
    exact .refused (by simpa [Call.isPermitted, Call.operation] using hopen)
  | true =>
    have hs : a.holdsSink = true := h.trans hopen
    cases hfit : a.sink.fits a.pendingBytes with
    | false =>
      have hcut : a.finish = (.error (.sink a.sink.whenFull), a.accept a.pendingBytes) := by
        rw [finish, ensureBegun_of_open hopen hs, hfit]
        rfl
      rw [hcut]
      exact .headCut (by simpa [Call.isPermitted, Call.operation] using hopen)
        (ready_of_not_fits hfit) hfit
    | true =>
      rw [finish_of_open hopen hs hfit]
      split
      · rename_i hall
        split
        · rename_i hflush
          exact .flushRefused hopen hall hflush
        · rename_i hflush
          exact .closed hopen hall (by simpa using hflush)
      · rename_i hall
        exact .tailCut hopen hfit (by simpa using hall)

/-- **A call of a consistent assembler has the effect of one of the rules.** -/
theorem effect_perform (h : a.Consistent) (c : Call) :
    Effect a c (c.perform a).1 (c.perform a).2 := by
  rcases c.cases_added with rfl | ⟨s, hs⟩ | rfl
  · exact effect_begin h
  · rw [Call.perform_of_added hs]
    exact effect_addSection h hs
  · exact effect_finish h

/-- A call that is not for the stage is refused and changes nothing. -/
theorem Effect.of_not_permitted (he : Effect a c r a') (hp : c.isPermitted a.stage = false) :
    r = .error (.wrongStage c.operation a.stage) ∧ a' = a := by
  cases he with
  | refused _ => exact ⟨rfl, rfl⟩
  | headCut h _ _ => rw [h] at hp; cases hp
  | begun hr _ => rw [hr] at hp; cases hp
  | sectionCut h hopen _ _ => rw [isPermitted_of_added h, hopen] at hp; cases hp
  | added h hopen _ => rw [isPermitted_of_added h, hopen] at hp; cases hp
  | tailCut hopen _ _ => cases hopen.symm.trans hp
  | flushRefused hopen _ _ => cases hopen.symm.trans hp
  | closed hopen _ _ => cases hopen.symm.trans hp

/-! ## What every effect keeps -/

theorem Effect.consistent (h : a.Consistent) (he : Effect a c r a') : a'.Consistent := by
  unfold Consistent at h ⊢
  cases he with
  | refused _ => exact h
  | headCut _ _ _ => exact h
  | begun hr _ =>
    rw [hr] at h
    exact h
  | sectionCut _ hopen _ _ =>
    rw [hopen] at h
    exact h
  | added _ hopen _ =>
    rw [hopen] at h
    exact h
  | tailCut _ _ _ => rfl
  | flushRefused _ _ _ => rfl
  | closed _ _ _ => rfl

end Assembler

end AdapterReport
