import AdapterReport.Proofs.Tool.Capture
import AdapterReport.Proofs.Tool.Machine
import AdapterReport.Tool.Toolbox

/-!
# The results of tools on a machine

What a machine shows is in order of time, and its end comes while somebody waits for it
(`Activity.Orderly`). This is so for the shell and for every utility, whatever they are told to do
(`Toolbox.orderly_standard`).

* `Activity.written_append`: two stretches of time that meet give what is written in both.
* `Runner.captureAtEnd_eq_before`: it makes no difference that the last look drains a pipe.
* `Runner.result_of_orderly`: all of a result.
-/

namespace AdapterReport

/-- What is written is in order of time. The end and what is written come while the tool is watched,
or shortly after its end. -/
structure Activity.Orderly (w : Watch) (a : Activity) : Prop where
  ordered : a.writes.Pairwise fun earlier later => earlier.time ≤ later.time
  inTime : ∀ t ending, a.finish = some (t, ending) → t < w.last
  within : ∀ x ∈ a.writes, x.time < w.last ∨
    ∃ t ending, a.finish = some (t, ending) ∧ x.time < t + w.after

/-- **What a machine shows is orderly**, whatever its processes do. -/
theorem Machine.orderly_activity (files : FileTree) (code : Process) (w : Watch) :
    (activity files code w).Orderly w := by
  have hkept := kept_run (w := w) maxSteps false (Kept.start files code)
  exact ⟨List.pairwise_reverse.mpr hkept.ordered, hkept.inTime, fun x hx =>
    hkept.within x (List.mem_reverse.mp hx)⟩

/-- **The standard programs are orderly**: the shell with any script, and every utility with any
arguments. -/
theorem Toolbox.orderly_standard {command : String} {arguments : List String} {program : Program}
    (h : standard.start command arguments = .ok program) (w : Watch) :
    (program w).Orderly w := by
  simp only [standard] at h
  cases hfind : Executable.find command with
  | error e => rw [hfind] at h; cases h
  | ok name =>
    rw [hfind] at h
    cases h
    exact Machine.orderly_activity _ _ w

namespace Activity

variable {w : Watch} {a : Activity}

/-- What is written in one stretch of time and then in the next one. -/
theorem written_append (h : a.Orderly w) (channel : Channel) {start middle stop : Time}
    (hstart : start ≤ middle) (hstop : middle ≤ stop) :
    a.written channel start stop =
      a.written channel start middle ++ a.written channel middle stop := by
  simp only [written, ← List.map_append]
  refine congrArg _ ?_
  have hordered := h.ordered
  generalize a.writes = writes at hordered
  induction writes with
  | nil => rfl
  | cons x rest ih =>
    rw [List.pairwise_cons] at hordered
    by_cases hx : x.time < middle
    · have hlast : (x.channel == channel && middle ≤ x.time && x.time < stop) = false := by
        rw [decide_eq_false (Nat.not_le.mpr hx), Bool.and_false, Bool.false_and]
      have hfirst : (x.channel == channel && start ≤ x.time && x.time < stop) =
          (x.channel == channel && start ≤ x.time && x.time < middle) := by
        simp [hx, Nat.lt_of_lt_of_le hx hstop]
      rw [List.filter_cons, List.filter_cons, List.filter_cons, hlast, hfirst, ih hordered.2]
      split <;> rfl
    · -- from here on nothing is written before the middle
      have hlate : ∀ y ∈ x :: rest, middle ≤ y.time := List.forall_mem_cons.mpr
        ⟨Nat.not_lt.mp hx, fun y hy => Nat.le_trans (Nat.not_lt.mp hx) (hordered.1 y hy)⟩
      have hnone : (x :: rest).filter
          (fun y => y.channel == channel && start ≤ y.time && y.time < middle) = [] :=
        List.filter_eq_nil_iff.mpr fun y hy => by simp [Nat.not_lt.mpr (hlate y hy)]
      rw [hnone, List.nil_append]
      refine List.filter_congr fun y hy => ?_
      simp [hlate y hy, Nat.le_trans hstart (hlate y hy)]

/-- What is written before one moment is the beginning of what is written before a later one. -/
theorem written_prefix (h : a.Orderly w) (channel : Channel) {time later : Time}
    (hle : time ≤ later) :
    (a.written channel 0 time).flatten <+: (a.written channel 0 later).flatten := by
  rw [written_append h channel (Nat.zero_le time) hle, List.flatten_append]
  exact List.prefix_append _ _

/-- A tool that ends while somebody waits for it has told its status in time. -/
theorem endingBefore?_last (h : a.Orderly w) : a.endingBefore? w.last = a.finish.map (·.2) := by
  unfold endingBefore?
  cases hf : a.finish with
  | none => rfl
  | some outcome => exact if_pos (h.inTime outcome.1 outcome.2 hf)

end Activity

namespace Runner

variable {r : Runner} {p : Program}

theorem captureAtEnd_eq_before {a : Activity} (h : a.Orderly r.watch) (channel : Channel)
    (look : Time) : r.captureAtEnd a channel look = r.captureBefore a channel look := by
  rw [captureAtEnd_eq, captureBefore_eq, ← List.flatten_append,
    ← Activity.written_append h channel (Nat.zero_le _) (Nat.sub_le look interval)]

theorem lookBefore_le (time : Time) : lookBefore time ≤ time :=
  Nat.le_trans (Nat.div_mul_le_self _ _) (Nat.sub_le time 1)

/-- **The result of an orderly tool** is what it has written up to one moment within the time that
it has, with the status of its end. It has timed out unless a look has seen the end before. -/
theorem result_of_orderly (h : (p r.watch).Orderly r.watch) :
    ∃ seen ≤ r.timeout,
      (r.result p).output = r.captureBefore (p r.watch) .output seen ∧
      (r.result p).errors = r.captureBefore (p r.watch) .errors seen ∧
      (r.result p).status = (p r.watch).finish.bind (·.2.status?) ∧
      ((r.result p).timedOut = false ↔
        ∃ t ending, (p r.watch).finish = some (t, ending) ∧ lookAfter t < r.timeout) := by
  cases hf : (p r.watch).finish with
  | none =>
    have hresult : r.result p = r.resultOverTime (p r.watch) none := by simp only [result, hf]
    rw [hresult]
    refine ⟨lookBefore r.timeout, lookBefore_le _, rfl, rfl, rfl, fun h => ?_, ?_⟩
    · cases h
    · rintro ⟨t, ending, heq, -⟩
      cases heq
  | some outcome =>
    obtain ⟨ended, ending⟩ := outcome
    by_cases hin : lookAfter ended < r.timeout
    · have hresult : r.result p = r.resultInTime (p r.watch) (lookAfter ended) ending := by
        simp only [result, hf, if_pos hin]
      rw [hresult]
      exact ⟨lookAfter ended, Nat.le_of_lt hin, captureAtEnd_eq_before h _ _,
        captureAtEnd_eq_before h _ _, rfl, fun _ => ⟨ended, ending, rfl, hin⟩, fun _ => rfl⟩
    · have hresult : r.result p = r.resultOverTime (p r.watch) (some ending) := by
        simp only [result, hf, if_neg hin, Activity.endingBefore?_last h, Option.map_some]
      rw [hresult]
      refine ⟨lookBefore r.timeout, lookBefore_le _, rfl, rfl, rfl, fun h => ?_, ?_⟩
      · cases h
      · rintro ⟨t, ending', heq, hlt⟩
        cases heq
        exact absurd hlt hin

/-- What is kept of a channel is the beginning of what was written there, up to any moment that is
not before the end of the time. -/
theorem result_prefix (h : (p r.watch).Orderly r.watch) {time : Time} (hlate : r.timeout ≤ time) :
    (r.result p).output.bytes <+: ((p r.watch).written .output 0 time).flatten ∧
    (r.result p).errors.bytes <+: ((p r.watch).written .errors 0 time).flatten := by
  obtain ⟨seen, hseen, houtput, herrors, -⟩ := result_of_orderly h
  have hbegins (channel : Channel) : (r.captureBefore (p r.watch) channel seen).bytes <+:
      ((p r.watch).written channel 0 time).flatten := by
    rw [captureBefore_eq, Capture.bytes_push_empty]
    exact (List.take_prefix _ _).trans
      (Activity.written_prefix h channel (Nat.le_trans hseen hlate))
  rw [houtput, herrors]
  exact ⟨hbegins .output, hbegins .errors⟩

end Runner

end AdapterReport
