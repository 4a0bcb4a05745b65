import AdapterReport.Tool.Runner

/-!
# What a capture keeps

A tool writes in pieces of any size, and a look takes what happens to wait. Nothing of this is seen
in a capture.

* `Capture.push_append`: two pieces are pushed as one, so a run of pieces is pushed as all their
  bytes at once (`Capture.foldl_push`), whatever the capture keeps already.
* `Capture.Filled`: a capture that has left something out has no room. This is why draining may
  stop there (`Capture.drain_eq_push`).
* `Capture.independent_of_pieces`: what is kept of all pieces, and what later ones do to it.
* `Runner.length_result_le`, `Runner.result_congr`: the result of a tool keeps the limit and does
  not depend on the pieces either.
-/

namespace AdapterReport

namespace Capture

variable {c d : Capture}

theorem eq_of_bytes (hlimit : c.limit = d.limit) (hbytes : c.bytes = d.bytes)
    (htruncated : c.truncated = d.truncated) : c = d := by
  obtain ⟨_, _, _⟩ := c
  obtain ⟨_, _, _⟩ := d
  rw [mk.injEq]
  exact ⟨hlimit, Array.toList_inj.mp hbytes, htruncated⟩

/-! ## One piece -/

theorem bytes_push (c : Capture) (piece : List UInt8) :
    (c.push piece).bytes = c.bytes ++ piece.take c.room := by
  simp [push, bytes]

theorem truncated_push_iff {piece : List UInt8} :
    (c.push piece).truncated = true ↔ c.truncated = true ∨ c.room < piece.length := by
  simp [push]

theorem room_push (c : Capture) (piece : List UInt8) :
    (c.push piece).room = c.room - piece.length := by
  simp only [push, room, Array.size_append, List.size_toArray, List.length_take]
  omega

theorem bytes_prefix_push (c : Capture) (piece : List UInt8) : c.bytes <+: (c.push piece).bytes :=
  ⟨piece.take c.room, (c.bytes_push piece).symm⟩

@[simp] theorem push_nil (c : Capture) : c.push [] = c := by
  simp [push]

/-! ## Piece after piece -/

/-- Two pieces are pushed as one, wherever in them the room ends. -/
theorem push_append (c : Capture) (xs ys : List UInt8) :
    c.push (xs ++ ys) = (c.push xs).push ys := by
  refine eq_of_bytes rfl ?_ ?_
  · rw [bytes_push, bytes_push, bytes_push, room_push, List.take_append, List.append_assoc]
  · rw [Bool.eq_iff_iff, truncated_push_iff, truncated_push_iff, truncated_push_iff, room_push,
      List.length_append, or_assoc]
    exact or_congr_right (by omega)

/-- **Pieces are pushed as their bytes**, all at once. -/
theorem foldl_push (c : Capture) (pieces : List (List UInt8)) :
    pieces.foldl push c = c.push pieces.flatten := by
  induction pieces generalizing c with
  | nil => rw [List.foldl_nil, List.flatten_nil, push_nil]
  | cons piece rest ih => rw [List.foldl_cons, ih, List.flatten_cons, push_append]

theorem bytes_push_empty (limit : Nat) (written : List UInt8) :
    ((empty limit).push written).bytes = written.take limit :=
  bytes_push (empty limit) written

theorem length_push_empty_le (limit : Nat) (written : List UInt8) :
    ((empty limit).push written).bytes.length ≤ limit := by
  rw [bytes_push_empty]
  exact List.length_take_le limit written

theorem truncated_push_empty_iff {limit : Nat} {written : List UInt8} :
    ((empty limit).push written).truncated = true ↔ limit < written.length := by
  rw [truncated_push_iff]
  exact or_iff_right Bool.false_ne_true

/-! ## Draining -/

/-- If something was left out, there is no room for more. -/
def Filled (c : Capture) : Prop := c.truncated = true → c.room = 0

theorem filled_empty (limit : Nat) : (empty limit).Filled := fun h => nomatch h

theorem Filled.push (h : c.Filled) (piece : List UInt8) : (c.push piece).Filled := by
  intro ht
  rw [room_push]
  rcases truncated_push_iff.mp ht with hbefore | hlong
  · rw [h hbefore, Nat.zero_sub]
  · exact Nat.sub_eq_zero_of_le (Nat.le_of_lt hlong)

theorem push_of_truncated (h : c.Filled) (ht : c.truncated = true) (piece : List UInt8) :
    c.push piece = c := by
  refine eq_of_bytes rfl ?_ ?_
  · rw [bytes_push, h ht, List.take_zero, List.append_nil]
  · rw [ht, truncated_push_iff]
    exact .inl ht

/-- **Draining** takes all that waits, although it stops once something is left out. -/
theorem drain_eq_push (h : c.Filled) (waiting : List UInt8) : c.drain waiting = c.push waiting := by
  fun_induction drain c waiting with
  | case1 c waiting hend =>
    rcases hend with ht | rfl
    · rw [push_of_truncated h ht]
    · rw [push_nil]
  | case2 c waiting _ ih => rw [ih (h.push _), ← push_append, List.take_append_drop]

end Capture

/-! ## All pieces -/

/-- **A capture does not depend on the pieces.** It keeps the first bytes of all that was written,
as many as its limit allows, and is truncated exactly if there were more. Other pieces with the same
bytes lead to the same capture, later pieces leave alone what is kept, and draining a pipe is
pushing all that waits there. -/
theorem Capture.independent_of_pieces (limit : Nat) (pieces : List (List UInt8)) :
    let written := pieces.flatten
    let c := pieces.foldl push (empty limit)
    c.bytes = written.take (min limit written.length) ∧
    (c.truncated = true ↔ limit < written.length) ∧
    c.bytes.length ≤ limit ∧
    (∀ others : List (List UInt8), others.flatten = written →
      others.foldl push (empty limit) = c) ∧
    (∀ later : List (List UInt8), c.bytes <+: (later.foldl push c).bytes) ∧
    (∀ waiting, c.drain waiting = c.push waiting) := by
  intro written c
  have hc : c = (empty limit).push written := foldl_push (empty limit) pieces
  refine ⟨?_, ?_, ?_, fun others hothers => ?_, fun later => ?_, ?_⟩
  · rw [hc, bytes_push_empty, List.take_eq_take_min]
  · rw [hc, truncated_push_empty_iff]
  · rw [hc]
    exact length_push_empty_le limit written
  · rw [foldl_push, hothers, hc]
  · rw [foldl_push]
    exact c.bytes_prefix_push later.flatten
  · rw [hc]
    exact drain_eq_push ((filled_empty limit).push written)

/-- Four bytes fill a capture of four bytes, in three pieces with an empty one or in two. Only a
fifth byte is left out. -/
theorem Capture.independent_of_pieces_just_full :
    let pieces : List (List UInt8) := [[1, 2], [], [3, 4]]
    let others : List (List UInt8) := [[1], [2, 3, 4]]
    let c := pieces.foldl push (empty 4)
    others.flatten = pieces.flatten ∧ others.foldl push (empty 4) = c ∧
      c.bytes = [1, 2, 3, 4] ∧ c.truncated = false ∧
      c.drain [5] = c.push [5] ∧ (c.push [5]).bytes = c.bytes ∧ (c.push [5]).truncated = true := by
  intro pieces others c
  have hsame : others.flatten = pieces.flatten := by decide
  obtain ⟨hbytes, htruncated, -, hothers, -, hdrain⟩ := independent_of_pieces 4 pieces
  have hroom : ¬ 4 < pieces.flatten.length := by decide
  exact ⟨hsame, hothers others hsame, hbytes, Bool.eq_false_iff.mpr (mt htruncated.mp hroom),
    hdrain [5], by decide, by decide⟩

/-! ## The captures of a tool -/

namespace Runner

open Capture

theorem captureBefore_eq (r : Runner) (a : Activity) (channel : Channel) (time : Time) :
    r.captureBefore a channel time = (empty r.limit).push (a.written channel 0 time).flatten :=
  foldl_push (empty r.limit) (a.written channel 0 time)

/-- It makes no difference that the looks before have pushed the first part, and that the rest is
drained. -/
theorem captureAtEnd_eq (r : Runner) (a : Activity) (channel : Channel) (look : Time) :
    r.captureAtEnd a channel look =
      (empty r.limit).push ((a.written channel 0 (look - interval)).flatten ++
        (a.written channel (look - interval) look).flatten) := by
  rw [captureAtEnd, captureBefore_eq, push_append, drain_eq_push ((filled_empty _).push _)]

theorem length_captureBefore_le (r : Runner) (a : Activity) (channel : Channel) (time : Time) :
    (r.captureBefore a channel time).bytes.length ≤ r.limit := by
  rw [captureBefore_eq]
  exact length_push_empty_le r.limit _

theorem length_captureAtEnd_le (r : Runner) (a : Activity) (channel : Channel) (look : Time) :
    (r.captureAtEnd a channel look).bytes.length ≤ r.limit := by
  rw [captureAtEnd_eq]
  exact length_push_empty_le r.limit _

theorem result_cases (r : Runner) (p : Program) :
    (∃ look ending, r.result p = r.resultInTime (p r.watch) look ending) ∨
      ∃ ending, r.result p = r.resultOverTime (p r.watch) ending := by
  simp only [result]
  split
  · split
    · exact .inl ⟨_, _, rfl⟩
    · exact .inr ⟨_, rfl⟩
  · exact .inr ⟨_, rfl⟩

/-- **The result of a tool** keeps no more of a channel than the limit. -/
theorem length_result_le (r : Runner) (p : Program) :
    (r.result p).output.bytes.length ≤ r.limit ∧ (r.result p).errors.bytes.length ≤ r.limit := by
  rcases r.result_cases p with ⟨look, ending, hin⟩ | ⟨ending, hover⟩
  · rw [hin]
    exact ⟨r.length_captureAtEnd_le _ _ look, r.length_captureAtEnd_le _ _ look⟩
  · rw [hover]
    exact ⟨r.length_captureBefore_le _ _ _, r.length_captureBefore_le _ _ _⟩

/-- **The result of a tool** depends on its end and on the bytes that it writes between any two
moments, but not on the pieces in which it writes them. -/
theorem result_congr {r : Runner} {p q : Program}
    (hfinish : (p r.watch).finish = (q r.watch).finish)
    (hwritten : ∀ channel start stop, ((p r.watch).written channel start stop).flatten =
      ((q r.watch).written channel start stop).flatten) :
    r.result p = r.result q := by
  have hbefore (channel : Channel) (time : Time) :
      r.captureBefore (p r.watch) channel time = r.captureBefore (q r.watch) channel time := by
    rw [captureBefore_eq, captureBefore_eq, hwritten]
  have hend (channel : Channel) (look : Time) :
      r.captureAtEnd (p r.watch) channel look = r.captureAtEnd (q r.watch) channel look := by
    rw [captureAtEnd_eq, captureAtEnd_eq, hwritten, hwritten]
  simp only [result, resultInTime, resultOverTime, hend, hbefore, hfinish, Activity.endingBefore?]

end Runner

end AdapterReport
