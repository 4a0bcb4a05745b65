import AdapterReport.Proofs.Assembler.Run

/-!
# Refusing sinks

`sink_refusal`: a call over a sink that takes `b` more bytes writes exactly the first `b` bytes of
what it would write to a sink that never refuses (`Call.bytes`), it fails at the sink iff not all of
them fit or the sink does not flush, and the place of the cut decides what stands behind it. Over a
run the recorded sections are those of the calls that succeeded (`recorded_run`).

A call permitted at a stage writes `Call.output`: the head, if it is still to be written, and what
the call has to write itself. The rules of `Effect` are sorted by whether the head fits
(`Effect.of_head_cut`), only the head fits (`Effect.of_own_cut`) or everything does
(`Effect.of_fits`).
-/

namespace AdapterReport

/-- The bytes that a call writes to a sink that never refuses. -/
def Call.bytes (c : Call) (a : Assembler) : List UInt8 :=
  (c.perform { a with sink := .unlimited }).2.sink.written

/-- What a call has to write behind the head. -/
def Call.ownBytes (c : Call) (a : Assembler) : List UInt8 :=
  match c.added?, c.operation with
  | some s, _ => a.sectionBytes s
  | none, .finish => a.tailBytes
  | none, _ => []

/-- What a call has to write. -/
def Call.output (c : Call) (a : Assembler) : List UInt8 :=
  a.pendingBytes ++ c.ownBytes a

namespace Assembler

variable {a a' : Assembler} {c : Call} {r : Except AssemblyError Unit}

/-- The head that a call would begin with. -/
def dueHead (a : Assembler) : List UInt8 :=
  if a.stage = .ready then Call.begin.bytes a else []

theorem ownBytes_of_added {s : Section} (h : c.added? = some s) :
    c.ownBytes a = a.sectionBytes s := by
  simp [Call.ownBytes, h]

theorem output_begin : Call.begin.output a = a.pendingBytes :=
  List.append_nil _

theorem operation_ne_finish_of_added {s : Section} (h : c.added? = some s) :
    c.operation ≠ .finish := by
  rw [Call.operation_of_added h]
  decide

/-! ## What a call writes -/

/-- What the sink takes of everything is what it takes of a head that does not fit. -/
theorem covered_output_of_head_cut (h : a.sink.fits a.pendingBytes = false) (bs : List UInt8) :
    (a.sink.accept (a.pendingBytes ++ bs)).written = (a.sink.accept a.pendingBytes).written := by
  rw [Sink.accept_append_of_not_fits h]

theorem Effect.written (he : Effect a c r a') (hp : c.isPermitted a.stage = true) :
    a'.sink.written = (a.sink.accept (c.output a)).written := by
  cases he with
  | refused h => rw [h] at hp; cases hp
  | headCut _ _ hcut => exact (covered_output_of_head_cut hcut _).symm
  | begun _ _ => rw [output_begin]; rfl
  | sectionCut hc _ _ _ => rw [Call.output, ownBytes_of_added hc, Sink.accept_append]; rfl
  | added hc _ _ => rw [Call.output, ownBytes_of_added hc, Sink.accept_append]; rfl
  | tailCut _ _ _ => exact (congrArg Sink.written (Sink.accept_append _ _ _)).symm
  | flushRefused _ _ _ => exact (congrArg Sink.written (Sink.accept_append _ _ _)).symm
  | closed _ _ _ => exact (congrArg Sink.written (Sink.accept_append _ _ _)).symm

theorem bytes_eq_output (h : a.Consistent) (hp : c.isPermitted a.stage = true) :
    c.bytes a = c.output a := by
  have hu : Consistent { a with sink := .unlimited } := h
  exact ((effect_perform hu c).written hp).trans (List.nil_append _)

theorem dueHead_eq (h : a.Consistent) : a.dueHead = a.pendingBytes := by
  unfold dueHead
  split
  · rename_i hr
    have hp : Call.begin.isPermitted a.stage = true := by rw [hr]; rfl
    rw [bytes_eq_output h hp, output_begin]
  · rename_i hr
    exact (if_neg hr).symm

/-! ## Where the budget ends -/

theorem Effect.of_head_cut (he : Effect a c r a') (hp : c.isPermitted a.stage = true)
    (hcut : a.sink.fits a.pendingBytes = false) :
    r = .error (.sink a.sink.whenFull) ∧ a' = a.accept a.pendingBytes := by
  -- in every other rule the head fits
  have hno : ∀ bs, a.sink.fits (a.pendingBytes ++ bs) ≠ true := fun bs h => by
    rw [fits_pending h] at hcut
    cases hcut
  cases he with
  | refused h => rw [h] at hp; cases hp
  | headCut _ _ _ => exact ⟨rfl, rfl⟩
  | begun _ h => rw [h] at hcut; cases hcut
  | sectionCut _ _ h _ => rw [h] at hcut; cases hcut
  | added _ _ h => exact absurd h (hno _)
  | tailCut _ h _ => rw [h] at hcut; cases hcut
  | flushRefused _ h _ => exact absurd h (hno _)
  | closed _ h _ => exact absurd h (hno _)

theorem Effect.of_own_cut (he : Effect a c r a') (hp : c.isPermitted a.stage = true)
    (hhead : a.sink.fits a.pendingBytes = true) (hcut : a.sink.fits (c.output a) = false) :
    r = .error (.sink a.sink.whenFull) ∧ a'.report = a.report ∧
      if c.operation = .finish then a'.stage = .rendering ∧ a'.holdsSink = false
      else a'.stage = .collecting ∧ a'.holdsSink = a.holdsSink := by
  cases he with
  | refused h => rw [h] at hp; cases hp
  | headCut _ _ h => rw [hhead] at h; cases h
  | begun _ h => rw [output_begin, h] at hcut; cases hcut
  | sectionCut hc _ _ _ =>
    rw [if_neg (operation_ne_finish_of_added hc)]
    exact ⟨rfl, rfl, rfl, rfl⟩
  | added hc _ h => rw [Call.output, ownBytes_of_added hc, h] at hcut; cases hcut
  | tailCut _ _ _ => exact ⟨rfl, rfl, rfl, rfl⟩
  | flushRefused _ h _ => exact absurd (h.symm.trans hcut) (by decide)
  | closed _ h _ => exact absurd (h.symm.trans hcut) (by decide)

theorem Effect.of_fits (he : Effect a c r a') (hp : c.isPermitted a.stage = true)
    (hfits : a.sink.fits (c.output a) = true) :
    if c.operation = .finish ∧ a.sink.refusesFlush = true then
      r = .error (.sink .flushRefused) ∧ a'.stage = .rendering ∧ a'.holdsSink = false ∧
        a'.report = a.report
    else r = .ok () := by
  cases he with
  | refused h => rw [h] at hp; cases hp
  | headCut _ _ h => rw [fits_pending hfits] at h; cases h
  | begun _ _ => rfl
  | sectionCut hc _ _ h => rw [Call.output, ownBytes_of_added hc, h] at hfits; cases hfits
  | added hc _ _ => rw [if_neg fun h => operation_ne_finish_of_added hc h.1]
  | tailCut _ _ h => exact absurd (h.symm.trans hfits) (by decide)
  | flushRefused _ _ h => rw [if_pos ⟨rfl, h⟩]; exact ⟨rfl, rfl, rfl, rfl⟩
  | closed _ _ h => rw [if_neg fun hx => by rw [h] at hx; cases hx.2]

/-- Only a `finish` that has written everything asks for a flush. -/
theorem Effect.flushes_eq (he : Effect a c r a') (hp : c.isPermitted a.stage = true) :
    a'.sink.flushes = a.sink.flushes +
      if c.operation = .finish ∧ a.sink.fits (c.output a) = true then 1 else 0 := by
  cases he with
  | refused h => rw [h] at hp; cases hp
  | headCut _ _ h => rw [if_neg fun hx => by rw [fits_pending hx.2] at h; cases h]; rfl
  | begun _ _ => rw [if_neg fun hx => by cases hx.1]; rfl
  | sectionCut hc _ _ _ => rw [if_neg fun hx => operation_ne_finish_of_added hc hx.1]; rfl
  | added hc _ _ => rw [if_neg fun hx => operation_ne_finish_of_added hc hx.1]; rfl
  | tailCut _ _ h => rw [if_neg fun hx => absurd (h.symm.trans hx.2) (by decide)]; rfl
  | flushRefused _ h _ => rw [if_pos ⟨rfl, h⟩]; rfl
  | closed _ h _ => rw [if_pos ⟨rfl, h⟩]; rfl

/-! ## What is recorded -/

theorem Effect.sections (he : Effect a c r a') :
    a'.report.sections = a.report.sections ++ (Answer.mk c a r a').recorded?.toList := by
  cases he with
  | added hc _ _ => simp [Answer.recorded?, hc, Report.push]
  | begun _ _ => exact (List.append_nil _).symm
  | closed _ _ _ => exact (List.append_nil _).symm
  | _ => exact (List.append_nil _).symm

theorem Effect.unchanged (he : Effect a c r a') :
    a'.format = a.format ∧ a'.collapsed = a.collapsed := by
  cases he <;> exact ⟨rfl, rfl⟩

/-- A call behind which nothing is begun has recorded nothing. -/
theorem Effect.of_ready (he : Effect a c r a') (h : a'.stage = .ready) :
    a.stage = .ready ∧ a'.report = a.report := by
  cases he with
  | refused _ => exact ⟨h, rfl⟩
  | headCut _ hr _ => exact ⟨hr, rfl⟩
  | _ => cases h

/-- **The recorded sections** are those of the calls that succeeded, in their order. -/
theorem recorded_run (sink : Sink) (format : Format) (m : Metadata) (settings : Settings)
    (events : List Event) :
    ((start sink format m settings).run events).report.sections =
      ((start sink format m settings).log events).filterMap Answer.recorded? := by
  refine run_induction (P := fun log a => a.report.sections = log.filterMap Answer.recorded?)
    (consistent_start sink format m settings) rfl (fun _ _ _ h => h) (fun done a c hs h => ?_)
    events
  rw [(effect_perform hs c).sections, h, List.filterMap_append]
  cases hx : (a.answer c).recorded? <;> simp_all [answer]

theorem unchanged_run (h : a.Consistent) (events : List Event) :
    (a.run events).format = a.format ∧ (a.run events).collapsed = a.collapsed := by
  refine run_induction (P := fun _ b => b.format = a.format ∧ b.collapsed = a.collapsed) h
    ⟨rfl, rfl⟩ (fun _ _ _ h => h) (fun _ b c hs h => ?_) events
  obtain ⟨hf, hc⟩ := (effect_perform hs c).unchanged
  exact ⟨hf.trans h.1, hc.trans h.2⟩

/-- Before anything is begun nothing is recorded. -/
theorem sections_of_ready (sink : Sink) (format : Format) (m : Metadata) (settings : Settings)
    (events : List Event) (h : ((start sink format m settings).run events).stage = .ready) :
    ((start sink format m settings).run events).report.sections = [] := by
  refine run_induction (P := fun _ a => a.stage = .ready → a.report.sections = [])
    (consistent_start sink format m settings) (fun _ => rfl) (fun _ _ _ h => h)
    (fun _ a c hs h hr => ?_) events h
  obtain ⟨hr', heq⟩ := (effect_perform hs c).of_ready hr
  rw [heq, h hr']

/-! ## The structured document -/

/-- The structured document is not written before the end. -/
theorem output_structured (hf : a.format = .json) (hc : c.operation ≠ .finish) :
    c.output a = [] := by
  have hp : a.pendingBytes = [] := by
    unfold pendingBytes headBytes
    rw [hf]
    split <;> rfl
  rcases c.cases_added with rfl | ⟨s, hs⟩ | rfl
  · rw [output_begin, hp]
  · have hsection : a.sectionBytes s = [] := by
      unfold sectionBytes Encoder.sectionText Encoder.sectionWrites
      rw [hf]
      obtain ⟨body, _⟩ := s
      cases body <;> rfl
    rw [Call.output, ownBytes_of_added hs, hp, hsection]
    rfl
  · exact absurd rfl hc

/-! ## A budget -/

section Budget

variable {b : Nat} {error : SinkError} {refuses : Bool} {bs : List UInt8}

theorem fits_under : (a.under ⟨some b, error, refuses⟩).sink.fits bs = true ↔ bs.length ≤ b :=
  decide_eq_true_iff

theorem not_fits_under :
    (a.under ⟨some b, error, refuses⟩).sink.fits bs = false ↔ b < bs.length :=
  decide_eq_false_iff_not.trans Nat.not_le

theorem effect_under (h : a.Consistent) (c : Call) (l : Limits) :
    Effect (a.under l) c (c.perform (a.under l)).1 (c.perform (a.under l)).2 :=
  effect_perform (a := a.under l) h c

/-- The sink takes as much of what a call would write as the budget covers. -/
theorem written_under (h : a.Consistent) (hp : c.isPermitted a.stage = true) :
    (c.perform (a.under ⟨some b, error, refuses⟩)).2.sink.written =
      a.sink.written ++ (c.bytes a).take b := by
  rw [(effect_under h c _).written hp, bytes_eq_output h hp]
  rfl

/-- A budget that ends in the head. -/
theorem perform_of_head_cut (h : a.Consistent) (hp : c.isPermitted a.stage = true)
    (hcut : b < a.dueHead.length) :
    c.perform (a.under ⟨some b, error, refuses⟩) =
      (.error (.sink error), (a.under ⟨some b, error, refuses⟩).accept a.dueHead) := by
  rw [dueHead_eq h] at hcut ⊢
  obtain ⟨hr, ha⟩ := (effect_under h c _).of_head_cut hp (not_fits_under.mpr hcut)
  exact Prod.ext hr ha

/-- A budget that ends behind the head. -/
theorem perform_of_own_cut (h : a.Consistent) (hp : c.isPermitted a.stage = true)
    (hhead : a.dueHead.length ≤ b) (hcut : b < (c.bytes a).length) :
    let o := c.perform (a.under ⟨some b, error, refuses⟩)
    o.1 = .error (.sink error) ∧ o.2.report = a.report ∧
      if c.operation = .finish then o.2.stage = .rendering ∧ o.2.holdsSink = false
      else o.2.stage = .collecting ∧ o.2.holdsSink = true := by
  intro o
  rw [dueHead_eq h] at hhead
  rw [bytes_eq_output h hp] at hcut
  have hheld : a.holdsSink = true := h.trans (isOpen_of_isPermitted hp)
  rw [← hheld]
  exact (effect_under h c _).of_own_cut hp (fits_under.mpr hhead) (not_fits_under.mpr hcut)

/-- A budget that covers everything. -/
theorem perform_of_fits (error : SinkError) (refuses : Bool) (h : a.Consistent)
    (hp : c.isPermitted a.stage = true) (hfits : (c.bytes a).length ≤ b) :
    let o := c.perform (a.under ⟨some b, error, refuses⟩)
    if c.operation = .finish ∧ refuses = true then
      o.1 = .error (.sink .flushRefused) ∧ o.2.stage = .rendering ∧ o.2.holdsSink = false ∧
        o.2.report = a.report
    else o.1 = .ok () := by
  rw [bytes_eq_output h hp] at hfits
  exact (effect_under h c _).of_fits hp (fits_under.mpr hfits)

/-- A call succeeds iff the budget covers everything and a flush that it asks for is not refused. -/
theorem perform_ok_iff (h : a.Consistent) (hp : c.isPermitted a.stage = true) :
    (c.perform (a.under ⟨some b, error, refuses⟩)).1 = .ok () ↔
      (c.bytes a).length ≤ b ∧ ¬ (c.operation = .finish ∧ refuses = true) := by
  constructor
  · intro hok
    have hfits : (c.bytes a).length ≤ b := by
      refine Nat.le_of_not_lt fun hcut => ?_
      rcases Nat.lt_or_ge b a.dueHead.length with hhead | hhead
      · rw [perform_of_head_cut h hp hhead] at hok
        cases hok
      · rw [(perform_of_own_cut h hp hhead hcut).1] at hok
        cases hok
    refine ⟨hfits, fun hflush => ?_⟩
    have := perform_of_fits error refuses h hp hfits
    rw [if_pos hflush, hok] at this
    cases this.1
  · rintro ⟨hfits, hno⟩
    have := perform_of_fits error refuses h hp hfits
    rwa [if_neg hno] at this

theorem flushes_under (h : a.Consistent) (hp : c.isPermitted a.stage = true) :
    (c.perform (a.under ⟨some b, error, refuses⟩)).2.sink.flushes = a.sink.flushes +
      if c.operation = .finish ∧ (c.bytes a).length ≤ b then 1 else 0 := by
  rw [bytes_eq_output h hp]
  have hflushes := (effect_under h c ⟨some b, error, refuses⟩).flushes_eq hp
  simp only [fits_under] at hflushes
  exact hflushes

end Budget

/-- **A refusing sink**: a call over a sink that takes `b` more bytes writes the first `b` bytes of
what it would write without a limit, and where they end decides what stands behind the call. -/
theorem sink_refusal (sink : Sink) (format : Format) (m : Metadata) (settings : Settings)
    (events : List Event) (c : Call) (b : Nat) (error : SinkError) (refuses : Bool) :
    let a := (start sink format m settings).run events
    let log := (start sink format m settings).log events
    let head := a.dueHead
    let all := c.bytes a
    let o := c.perform (a.under ⟨some b, error, refuses⟩)
    a.report.sections = log.filterMap Answer.recorded? ∧
    (c.isPermitted a.stage = true →
      head <+: all ∧
      o.2.sink.written = a.sink.written ++ all.take b ∧
      (o.1 = .ok () ↔ all.length ≤ b ∧ ¬ (c.operation = .finish ∧ refuses = true)) ∧
      o.2.sink.flushes =
        a.sink.flushes + (if c.operation = .finish ∧ all.length ≤ b then 1 else 0) ∧
      (b < head.length →
        o.1 = .error (.sink error) ∧ o.2.stage = .ready ∧ o.2.holdsSink = true ∧
          o.2.report.sections = []) ∧
      (head.length ≤ b → b < all.length →
        o.1 = .error (.sink error) ∧ o.2.report = a.report ∧
          if c.operation = .finish then o.2.stage = .rendering ∧ o.2.holdsSink = false
          else o.2.stage = .collecting ∧ o.2.holdsSink = true) ∧
      (all.length ≤ b → c.operation = .finish → refuses = true →
        o.1 = .error (.sink .flushRefused) ∧ o.2.report = a.report ∧
          o.2.stage = .rendering ∧ o.2.holdsSink = false) ∧
      (format = .json → c.operation ≠ .finish → all = [] ∧ o.1 = .ok ())) := by
  intro a log head all o
  have hs : a.Consistent := consistent_run (consistent_start sink format m settings) events
  refine ⟨recorded_run sink format m settings events, fun hp => ?_⟩
  have hall : all = c.output a := bytes_eq_output hs hp
  refine ⟨?_, written_under hs hp, perform_ok_iff hs hp, flushes_under hs hp, fun hcut => ?_,
    perform_of_own_cut hs hp, fun hfits hc hrefuses => ?_, fun hjson hc => ?_⟩
  · rw [hall, show head = a.pendingBytes from dueHead_eq hs]
    exact List.prefix_append _ _
  · -- a head is cut only where nothing has been begun
    have hready : a.stage = .ready := by
      refine Decidable.byContradiction fun hne => ?_
      rw [show head = [] from if_neg hne] at hcut
      exact Nat.not_lt_zero b hcut
    have ho : o = (.error (.sink error), (a.under ⟨some b, error, refuses⟩).accept head) :=
      perform_of_head_cut hs hp hcut
    rw [ho]
    exact ⟨rfl, hready, hs.trans (isOpen_of_isPermitted hp),
      sections_of_ready sink format m settings events hready⟩
  · have := perform_of_fits error refuses hs hp hfits
    rw [if_pos ⟨hc, hrefuses⟩] at this
    exact ⟨this.1, this.2.2.2, this.2.1, this.2.2.1⟩
  · have hf : a.format = .json :=
      (unchanged_run (consistent_start sink format m settings) events).1.trans hjson
    have hnil : all = [] := hall.trans (output_structured hf hc)
    refine ⟨hnil, (perform_ok_iff hs hp).mpr ⟨?_, fun h => hc h.1⟩⟩
    rw [show c.bytes a = [] from hnil]
    exact Nat.zero_le b

end Assembler

end AdapterReport
