import AdapterReport.Sink

/-!
# What a sink takes

`Sink.accept bytes` is the sink behind a write of `bytes`: all of them without a budget, else the
first ones that the budget covers. A write is `accept`, and it succeeds iff the bytes fit
(`Sink.write_eq`). Several writes that stop at the first refusal are one write of all their texts
(`Sink.writeAll_eq`): how a text is cut into writes makes no difference, wherever the budget ends.
-/

namespace AdapterReport.Sink

open Text.Utf8 (encode)

variable {s : Sink} {bs cs : List UInt8}

/-- Whether the budget covers these bytes. -/
def fits (s : Sink) (bs : List UInt8) : Bool :=
  s.budget.all (bs.length ≤ ·)

/-- The part of these bytes that the budget covers. -/
def covered (s : Sink) (bs : List UInt8) : List UInt8 :=
  match s.budget with
  | none => bs
  | some budget => bs.take budget

/-- The sink behind a write of these bytes. -/
def accept (s : Sink) (bs : List UInt8) : Sink :=
  { s with written := s.written ++ s.covered bs, budget := s.budget.map (· - bs.length) }

/-- The sink behind a flush. -/
def flushed (s : Sink) : Sink :=
  { s with flushes := s.flushes + 1 }

/-! ## What fits -/

@[simp] theorem accept_whenFull : (s.accept bs).whenFull = s.whenFull := rfl

theorem accept_written : (s.accept bs).written = s.written ++ s.covered bs := rfl

theorem fits_of_budget_none (h : s.budget = none) : s.fits bs = true := by
  simp [fits, h]

theorem covered_of_fits (h : s.fits bs = true) : s.covered bs = bs := by
  unfold fits at h
  unfold covered
  split
  · rfl
  · rename_i budget hb
    rw [hb] at h
    exact List.take_of_length_le (by simpa using h)

/-! ## Taking more and more -/

@[simp] theorem accept_nil (s : Sink) : s.accept [] = s := by
  obtain ⟨written, budget, _, _, _⟩ := s
  cases budget <;> simp [accept, covered]

@[simp] theorem fits_nil (s : Sink) : s.fits [] = true := by
  cases hb : s.budget <;> simp [fits, hb]

theorem accept_append (s : Sink) (bs cs : List UInt8) :
    s.accept (bs ++ cs) = (s.accept bs).accept cs := by
  obtain ⟨written, budget, _, _, _⟩ := s
  cases budget with
  | none => simp [accept, covered]
  | some budget => simp [accept, covered, List.take_append, Nat.sub_sub]

theorem fits_append (s : Sink) (bs cs : List UInt8) :
    s.fits (bs ++ cs) = (s.fits bs && (s.accept bs).fits cs) := by
  cases hb : s.budget with
  | none => simp [fits, accept, hb]
  | some budget =>
    simp only [fits, accept, hb, Option.map_some, Option.all_some, List.length_append]
    rw [Bool.eq_iff_iff]
    simp only [Bool.and_eq_true, decide_eq_true_eq]
    omega

/-- A sink that has refused something takes nothing behind it. -/
theorem accept_append_of_not_fits (h : s.fits bs = false) (cs : List UInt8) :
    s.accept (bs ++ cs) = s.accept bs := by
  cases hb : s.budget with
  | none => simp [fits, hb] at h
  | some budget =>
    have hlt : budget < bs.length := by simpa [fits, hb] using h
    have hmore : budget - (bs.length + cs.length) = budget - bs.length := by omega
    simp [accept, covered, hb, List.take_append, Nat.sub_eq_zero_of_le (Nat.le_of_lt hlt), hmore]

/-! ## Writes -/

theorem write_eq (s : Sink) (text : String) :
    s.write text =
      (if s.fits (encode text) then .ok () else .error s.whenFull, s.accept (encode text)) := by
  cases hb : s.budget with
  | none => simp [write, fits, accept, covered, hb]
  | some budget =>
    by_cases hle : (encode text).length ≤ budget <;> simp [write, fits, accept, covered, hb, hle]

/-- **Several writes are one write of all texts**, whatever the budget is. -/
theorem writeAll_eq (s : Sink) (texts : List String) :
    s.writeAll texts =
      (if s.fits (encode (String.join texts)) then .ok () else .error s.whenFull,
        s.accept (encode (String.join texts))) := by
  induction texts generalizing s with
  | nil => simp [writeAll]
  | cons text rest ih =>
    rw [String.join_cons, Text.Utf8.encode_append, fits_append, writeAll, write_eq]
    cases hf : s.fits (encode text) with
    | true => simp only [if_true, ih, accept_append, accept_whenFull, Bool.true_and]
    | false => simp [accept_append_of_not_fits hf]

theorem flush_eq (s : Sink) :
    s.flush = (if s.refusesFlush then .error .flushRefused else .ok (), s.flushed) := rfl

end AdapterReport.Sink
