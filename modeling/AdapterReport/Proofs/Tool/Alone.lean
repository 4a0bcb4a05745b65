import AdapterReport.Proofs.Tool.Orderly

/-!
# Tools of one process

A process that starts no other one and only writes, lets time pass and ends is known by what it
`Says`, without any machine. `Machine.run_of_says`: the machine on which it runs shows just that.
-/

namespace AdapterReport

/-- The descriptor of a channel. -/
def Channel.descriptor : Channel → Nat
  | .output => Task.output
  | .errors => Task.errors

namespace Machine

/-- What a process writes from some time on, when it ends and with which status, and in how many
steps. -/
inductive Says : Process → Time → List Write → Time → UInt8 → Nat → Prop
  | exit (status : UInt8) (t : Time) : Says (.exit status) t [] t status 1
  | pass {time : Time} {next : Unit → Process} {t ended : Time} {ws : List Write} {status : UInt8}
      {n : Nat} (h : Says (next ()) (t + time) ws ended status n) :
      Says (.ask (.pass time) next) t ws ended status (n + 1)
  | write {bytes : List UInt8} {next : Except SystemError Unit → Process} {t ended : Time}
      {ws : List Write} {status : UInt8} {n : Nat} (c : Channel)
      (h : Says (next (.ok ())) (t + movingTime bytes.length) ws ended status n) :
      Says (.ask (.write c.descriptor bytes) next) t (⟨t, c, bytes⟩ :: ws) ended status (n + 1)

theorem Says.le {code : Process} {t ended : Time} {ws : List Write} {status : UInt8} {n : Nat}
    (h : Says code t ws ended status n) : t ≤ ended := by
  induction h with
  | exit => exact Nat.le_refl _
  | pass _ ih => exact Nat.le_trans (Nat.le_add_right _ _) ih
  | write _ _ ih => exact Nat.le_trans (Nat.le_add_right _ _) ih

/-- The first process is the only one, and nothing has happened to it. -/
structure Alone (m : Machine) (p : Running) : Prop where
  running : m.running = [p]
  id : p.id = first
  handle (c : Channel) : p.handle? c.descriptor = some ⟨.channel c, false, true⟩
  notStopped : p.stopped = false
  notInterrupted : p.interrupted = false
  notEnded : p.fatal = none
  outcome : m.outcome = none

variable {m : Machine} {p : Running} {w : Watch}

theorem alone_start (files : FileTree) (code : Process) :
    ∃ p, Alone (start files code) p ∧ p.code = code ∧ p.wake = startTime := by
  refine ⟨_, ⟨rfl, rfl, fun c => ?_, rfl, rfl, rfl, rfl⟩, rfl, rfl⟩
  cases c <;> rfl

/-- The machine on which one more piece was written. -/
def wrote (m : Machine) (x : Write) : Machine := { m with written := x :: m.written }

theorem Alone.wrote (h : Alone m p) (x : Write) : Alone (m.wrote x) p where
  running := h.running
  id := h.id
  handle := h.handle
  notStopped := h.notStopped
  notInterrupted := h.notInterrupted
  notEnded := h.notEnded
  outcome := h.outcome

theorem Alone.goOn (h : Alone m p) (code : Process) (time : Time) :
    Alone (m.goOn p code time)
      { p with code := code, wake := m.now + time, interrupted := false } where
  running := by simp [Machine.goOn, update, h.running]
  id := h.id
  handle := h.handle
  notStopped := h.notStopped
  notInterrupted := rfl
  notEnded := h.notEnded
  outcome := h.outcome

/-- Once the first process has ended and there is no other one, nothing happens. -/
theorem run_of_ended (hrunning : m.running = []) (hended : m.outcome.isSome = true) (n : Nat)
    (asked : Bool) : run w n asked m = m := by
  cases n with
  | zero => simp [run, hended]
  | succ n => simp [run, chosen?, hrunning, hended]

theorem Alone.advanced (h : Alone m p) (time : Time) : Alone (m.advanced time) p where
  running := h.running
  id := h.id
  handle := h.handle
  notStopped := h.notStopped
  notInterrupted := h.notInterrupted
  notEnded := h.notEnded
  outcome := h.outcome

theorem Alone.finish (h : Alone m p) (ending : Ending) :
    (m.finish p ending).running = [] ∧ (m.finish p ending).written = m.written ∧
      (m.finish p ending).outcome = some (m.now, ending) := by
  have hrest : m.running.filter (·.id != p.id) = [] := by simp [h.running]
  have hfirst : (p.id == first) = true := beq_iff_eq.mpr h.id
  simp [Machine.finish, hrest, hfirst, tellParent, process?, sweep]

/-! ## Steps -/

section
variable (h : Alone m p) (hnow : m.now ≤ p.wake) (hwake : p.wake < w.asked)
  (hlast : w.asked ≤ w.last)
include h hnow hwake hlast

/-- A process that is alone and can go on does so, while it is not asked to end. -/
theorem Alone.run_succ (hready : m.ready p = true) (n : Nat) :
    run w (n + 1) false m = run w n false ((m.advanced p.wake).perform p) := by
  have hchosen : m.chosen? = some p := by simp [chosen?, h.running, hready, earlier]
  have hlimit : p.wake < m.limit w := by
    rw [limit, h.outcome]
    exact Nat.lt_of_lt_of_le hwake hlast
  simp [run, hchosen, h.outcome, Nat.max_eq_right hnow, Nat.not_le.mpr hwake, hlimit]

theorem Alone.run_exit {status : UInt8} (hcode : p.code = .exit status) (n : Nat) :
    (run w (n + 1) false m).written = m.written ∧
      (run w (n + 1) false m).outcome = some (p.wake, .exited status) := by
  have hready : m.ready p = true := by simp [ready, hcode, h.notStopped]
  have hperform : (m.advanced p.wake).perform p =
      (m.advanced p.wake).finish p (.exited status) := by
    simp only [perform, h.notEnded, answer, hcode]
  obtain ⟨hrunning, hwritten, houtcome⟩ := (h.advanced p.wake).finish (.exited status)
  rw [h.run_succ hnow hwake hlast hready, hperform,
    run_of_ended hrunning (by rw [houtcome]; rfl), hwritten, houtcome]
  exact ⟨rfl, by rw [Machine.advanced, Nat.max_eq_right hnow]⟩

theorem Alone.run_pass {time : Time} {next : Unit → Process}
    (hcode : p.code = .ask (.pass time) next) (n : Nat) :
    ∃ m' p', run w (n + 1) false m = run w n false m' ∧ Alone m' p' ∧ p'.code = next () ∧
      p'.wake = p.wake + time ∧ m'.now = p.wake ∧ m'.written = m.written := by
  have hready : m.ready p = true := by simp [ready, hcode, h.notStopped]
  have hperform : (m.advanced p.wake).perform p = (m.advanced p.wake).goOn p (next ()) time := by
    simp only [perform, h.notEnded, answer, hcode]
  have htime : (m.advanced p.wake).now = p.wake := Nat.max_eq_right hnow
  refine ⟨_, _, ?_, (h.advanced p.wake).goOn (next ()) time, rfl, by rw [htime], htime, rfl⟩
  rw [h.run_succ hnow hwake hlast hready, hperform]

theorem Alone.run_write {c : Channel} {bytes : List UInt8}
    {next : Except SystemError Unit → Process}
    (hcode : p.code = .ask (.write c.descriptor bytes) next) (n : Nat) :
    ∃ m' p', run w (n + 1) false m = run w n false m' ∧ Alone m' p' ∧ p'.code = next (.ok ()) ∧
      p'.wake = p.wake + movingTime bytes.length ∧ m'.now = p.wake ∧
      m'.written = ⟨p.wake, c, bytes⟩ :: m.written := by
  have hready : m.ready p = true := by simp [ready, hcode, h.notStopped, h.handle]
  have hperform : (m.advanced p.wake).perform p =
      ((m.advanced p.wake).wrote ⟨(m.advanced p.wake).now, c, bytes⟩).goOn p (next (.ok ()))
        (movingTime bytes.length) := by
    simp only [perform, h.notEnded, answer, hcode, h.handle]
    rfl
  have htime : (m.advanced p.wake).now = p.wake := Nat.max_eq_right hnow
  rw [htime] at hperform
  have halone := (h.advanced p.wake).wrote ⟨p.wake, c, bytes⟩
  refine ⟨_, _, ?_, halone.goOn (next (.ok ())) (movingTime bytes.length), rfl, ?_, htime, rfl⟩
  · rw [h.run_succ hnow hwake hlast hready, hperform]
  · show (m.advanced p.wake).now + _ = _
    rw [htime]

end

/-! ## Runs -/

/-- **A process that is alone shows what it says**, if it ends before it is asked to. -/
theorem run_of_says {code : Process} {t ended : Time} {ws : List Write} {status : UInt8} {k : Nat}
    (hsaid : Says code t ws ended status k) (h : Alone m p) (hcode : p.code = code)
    (hwake : p.wake = t) (hnow : m.now ≤ t) (hended : ended < w.asked) (hlast : w.asked ≤ w.last)
    {n : Nat} (hn : k ≤ n) :
    (run w n false m).written = ws.reverse ++ m.written ∧
      (run w n false m).outcome = some (ended, .exited status) := by
  have hbefore : p.wake < w.asked := hwake ▸ Nat.lt_of_le_of_lt hsaid.le hended
  induction hsaid generalizing m p n with
  | exit status t =>
    obtain ⟨n, rfl⟩ : ∃ j, n = j + 1 := ⟨n - 1, by omega⟩
    subst hwake
    exact h.run_exit hnow hbefore hlast hcode n
  | @pass time next t ended ws status k hsaid ih =>
    obtain ⟨n, rfl⟩ : ∃ j, n = j + 1 := ⟨n - 1, by omega⟩
    subst hwake
    obtain ⟨m', p', hrun, h', hcode', hwake', hnow', hwritten⟩ :=
      h.run_pass hnow hbefore hlast hcode n
    rw [hrun, ← hwritten]
    exact ih h' hcode' hwake' (hnow' ▸ Nat.le_add_right _ _) hended (by omega)
      (hwake' ▸ Nat.lt_of_le_of_lt hsaid.le hended)
  | @write bytes next t ended ws status k c hsaid ih =>
    obtain ⟨n, rfl⟩ : ∃ j, n = j + 1 := ⟨n - 1, by omega⟩
    subst hwake
    obtain ⟨m', p', hrun, h', hcode', hwake', hnow', hwritten⟩ :=
      h.run_write hnow hbefore hlast hcode n
    rw [hrun, List.reverse_cons, List.append_assoc, List.singleton_append, ← hwritten]
    exact ih h' hcode' hwake' (hnow' ▸ Nat.le_add_right _ _) hended (by omega)
      (hwake' ▸ Nat.lt_of_le_of_lt hsaid.le hended)

/-- What can be seen of a tool of one process that ends in time. -/
theorem activity_of_says {code : Process} {ended : Time} {ws : List Write} {status : UInt8}
    {k : Nat} (hsaid : Says code startTime ws ended status k) (hk : k ≤ maxSteps)
    (hended : ended < w.asked) (hlast : w.asked ≤ w.last) (files : FileTree) :
    activity files code w = ⟨ws, some (ended, .exited status)⟩ := by
  obtain ⟨p, halone, hcode, hwake⟩ := alone_start files code
  obtain ⟨hwritten, houtcome⟩ :=
    run_of_says hsaid halone hcode hwake (Nat.zero_le _) hended hlast hk
  have hnothing : (start files code).written = [] := rfl
  rw [activity, hwritten, houtcome, hnothing, List.append_nil, List.reverse_reverse]

end Machine

end AdapterReport
