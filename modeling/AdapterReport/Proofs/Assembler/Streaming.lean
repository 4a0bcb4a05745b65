import AdapterReport.Proofs.Assembler.Refusal

/-!
# Streaming

`streaming_eq_batch`: over a sink that never refuses, a report that is written section by section is
the document that an encoder gives in one go (`Encoder.document`), with or without a `begin` of its
own.

`Streamed format m settings done a` is the invariant behind the sections `done`. It does not
distinguish an assembler that has begun from one that has not: what is written is taken together
with the head that is still pending, so the first section and `finish` need no case of their own.
-/

namespace AdapterReport

open Text.Utf8 (encode)

/-- The document of a report. -/
def Encoder.document (e : Encoder) (r : Report) : String :=
  e.head r.metadata ++ String.join (r.sections.map e.sectionText) ++ e.tail r

/-- A section as the settings have it: folded if it asks for it itself or its key is listed. -/
def Settings.placed (settings : Settings) (s : Section) : Section :=
  { s with collapsed := s.collapsed || settings.isCollapsed s.key }

/-- The report of these sections. -/
def Settings.report (settings : Settings) (m : Metadata) (sections : List Section) : Report :=
  ⟨m, sections.map settings.placed⟩

/-- The calls that add these sections, perhaps with a `begin` of its own before them. -/
def Event.collecting (explicit : Bool) (sections : List Section) : List Event :=
  (if explicit then [.call .begin] else []) ++ sections.map fun s => .call (.addSection s)

/-- The calls of a whole report. -/
def Event.whole (explicit : Bool) (sections : List Section) : List Event :=
  collecting explicit sections ++ [.call .finish]

theorem Settings.report_push (settings : Settings) (m : Metadata) (done : List Section)
    (s : Section) :
    (settings.report m done).push (settings.placed s) = settings.report m (done ++ [s]) := by
  simp [report, Report.push]

/-- The document up to the last section grows by the text of a section. -/
theorem Encoder.join_sections_push (e : Encoder) (r : Report) (s : Section) :
    String.join ((r.push s).sections.map e.sectionText) =
      String.join (r.sections.map e.sectionText) ++ e.sectionText s := by
  simp [Report.push]

namespace Assembler

variable {a : Assembler} {format : Format} {m : Metadata} {settings : Settings}
  {done : List Section}

/-! ## The invariant -/

/-- The assembler has added the sections `done` to a sink that never refuses. -/
structure Streamed (format : Format) (m : Metadata) (settings : Settings) (done : List Section)
    (a : Assembler) : Prop where
  format_eq : a.format = format
  collapsed_eq : a.collapsed = settings.collapsed
  report_eq : a.report = settings.report m done
  consistent : a.Consistent
  isOpen : a.stage.isOpen = true
  budget : a.sink.budget = none
  flushes : a.sink.refusesFlush = false
  /-- What is written, with the head if it is pending, is the document so far. -/
  written : a.sink.written ++ a.pendingBytes =
    encode (format.encoder.head m ++
      String.join ((settings.report m done).sections.map format.encoder.sectionText))

theorem Streamed.start (format : Format) (m : Metadata) (settings : Settings) :
    Streamed format m settings [] (.start .unlimited format m settings) where
  format_eq := rfl
  collapsed_eq := rfl
  report_eq := rfl
  consistent := rfl
  isOpen := rfl
  budget := rfl
  flushes := rfl
  written := by
    rw [Settings.report, List.map_nil, List.map_nil, String.join_nil, String.append_empty]
    rfl

theorem Streamed.holdsSink (h : Streamed format m settings done a) : a.holdsSink = true :=
  h.consistent.trans h.isOpen

theorem Streamed.fits (h : Streamed format m settings done a) (bs : List UInt8) :
    a.sink.fits bs = true :=
  Sink.fits_of_budget_none h.budget

theorem Streamed.covered (h : Streamed format m settings done a) (bs : List UInt8) :
    a.sink.covered bs = bs :=
  Sink.covered_of_fits (h.fits bs)

theorem Streamed.placed (h : Streamed format m settings done a) (s : Section) :
    a.placed s = settings.placed s := by
  rw [Assembler.placed, h.collapsed_eq]
  rfl

/-- Behind its head an assembler has written what it had written and the head. -/
theorem Streamed.begun_written (h : Streamed format m settings done a) :
    a.begun.sink.written = a.sink.written ++ a.pendingBytes := by
  rw [begun_sink, Sink.accept_written, h.covered]

theorem begun_pendingBytes : a.begun.pendingBytes = [] := rfl

theorem Streamed.begun (h : Streamed format m settings done a) :
    Streamed format m settings done a.begun where
  format_eq := h.format_eq
  collapsed_eq := h.collapsed_eq
  report_eq := h.report_eq
  consistent := h.holdsSink
  isOpen := rfl
  budget := by rw [begun_sink, Sink.accept, h.budget]; rfl
  flushes := h.flushes
  written := by rw [begun_pendingBytes, List.append_nil, h.begun_written, h.written]

/-! ## Calls -/

theorem Streamed.begin_eq (h : Streamed format m settings done a) (hr : a.stage = .ready) :
    a.begin = (.ok (), a.begun) := by
  rw [begin_of_ready hr h.holdsSink, if_pos (h.fits _)]

theorem Streamed.addSection_eq (h : Streamed format m settings done a) (s : Section) :
    a.addSection s = (.ok (),
      { a.begun.accept (a.sectionBytes s) with report := a.report.push (a.placed s) }) := by
  rw [addSection_of_open h.isOpen h.holdsSink (h.fits _), if_pos (h.fits _)]

theorem Streamed.finish_eq (h : Streamed format m settings done a) :
    a.finish = (.ok (), { (a.closing.accept a.tailBytes).flushed with stage := .closed }) := by
  rw [finish_of_open h.isOpen h.holdsSink (h.fits _), if_pos (h.fits _), h.flushes,
    if_neg Bool.false_ne_true]

theorem Streamed.add (h : Streamed format m settings done a) (s : Section) :
    Streamed format m settings (done ++ [s]) (a.addSection s).2 := by
  rw [h.addSection_eq]
  refine ⟨h.format_eq, h.collapsed_eq, ?_, h.begun.consistent, rfl, ?_, h.flushes, ?_⟩
  · rw [h.placed, ← Settings.report_push, h.report_eq]
  · rw [accept_sink, Sink.accept, h.begun.budget]
    rfl
  · show (a.begun.sink.accept (a.sectionBytes s)).written ++ [] = _
    rw [List.append_nil, Sink.accept_written, h.begun.covered, h.begun_written, h.written,
      sectionBytes, h.format_eq, h.placed, ← Text.Utf8.encode_append, String.append_assoc,
      ← Encoder.join_sections_push, Settings.report_push]

/-- **The end of a report** that has been streamed: the whole document is written. -/
theorem Streamed.finish (h : Streamed format m settings done a) :
    a.finish.1 = .ok () ∧ a.finish.2.report = settings.report m done ∧
      a.finish.2.sink.written = encode (format.encoder.document (settings.report m done)) := by
  rw [h.finish_eq]
  refine ⟨rfl, h.report_eq, ?_⟩
  show (a.begun.sink.accept a.tailBytes).written = _
  rw [Sink.accept_written, h.begun.covered, h.begun_written, h.written, tailBytes, h.format_eq,
    h.report_eq, ← Text.Utf8.encode_append]
  rfl

/-! ## Runs -/

/-- Sections that are added one after the other are all added. -/
theorem Streamed.adds (h : Streamed format m settings done a) (sections : List Section) :
    Streamed format m settings (done ++ sections)
        (a.run (sections.map fun s => .call (.addSection s))) ∧
      ∀ x ∈ a.log (sections.map fun s => .call (.addSection s)), x.result = .ok () := by
  induction sections generalizing a done with
  | nil => exact ⟨by rwa [List.append_nil], fun _ hx => by cases hx⟩
  | cons s rest ih =>
    obtain ⟨hrun, hlog⟩ := ih (h.add s)
    refine ⟨by rwa [List.append_assoc] at hrun, fun x hx => ?_⟩
    rcases List.mem_cons.mp hx with rfl | hx
    · exact congrArg Prod.fst (h.addSection_eq s)
    · exact hlog x hx

theorem streamed_collecting (format : Format) (m : Metadata) (settings : Settings)
    (explicit : Bool) (sections : List Section) :
    Streamed format m settings sections
        ((start .unlimited format m settings).run (Event.collecting explicit sections)) ∧
      ∀ x ∈ (start .unlimited format m settings).log (Event.collecting explicit sections),
        x.result = .ok () := by
  have h := Streamed.start format m settings
  cases explicit with
  | false => exact h.adds sections
  | true =>
    have hbegin : Call.begin.perform (start .unlimited format m settings) =
        (.ok (), (start .unlimited format m settings).begun) := h.begin_eq rfl
    obtain ⟨hrun, hlog⟩ := h.begun.adds sections
    refine ⟨?_, fun x hx => ?_⟩
    · rw [Event.collecting, if_pos rfl, List.singleton_append, run, hbegin]
      exact hrun
    · rw [Event.collecting, if_pos rfl, List.singleton_append, log, hbegin] at hx
      rcases List.mem_cons.mp hx with rfl | hx
      · exact congrArg Prod.fst hbegin
      · exact hlog x hx

/-- The run of a whole report over a sink that never refuses. -/
theorem run_whole (format : Format) (m : Metadata) (settings : Settings) (explicit : Bool)
    (sections : List Section) :
    let a := start .unlimited format m settings
    let events := Event.whole explicit sections
    (∀ x ∈ a.log events, x.result = .ok ()) ∧ (a.run events).report = settings.report m sections ∧
      (a.run events).sink.written =
        encode (format.encoder.document (settings.report m sections)) := by
  intro a events
  obtain ⟨h, hlog⟩ := streamed_collecting format m settings explicit sections
  obtain ⟨hok, hreport, hwritten⟩ := h.finish
  have hrun : a.run events = (a.run (Event.collecting explicit sections)).finish.2 :=
    run_append a _ _
  refine ⟨fun x hx => ?_, hrun ▸ hreport, hrun ▸ hwritten⟩
  rw [show a.log events = _ from log_append a _ _] at hx
  rcases List.mem_append.mp hx with hx | hx
  · exact hlog x hx
  · rw [List.mem_singleton.mp hx]
    exact hok

/-! ## The structured document -/

/-- Before `finish` the structured document is not written, whatever the sink does. -/
theorem Effect.written_structured {a' : Assembler} {c : Call} {r : Except AssemblyError Unit}
    (he : Effect a c r a') (hf : a.format = .json) (hc : c.operation ≠ .finish) :
    a'.sink.written = a.sink.written := by
  cases hp : c.isPermitted a.stage with
  | true => rw [he.written hp, output_structured hf hc, Sink.accept_nil]
  | false => rw [(he.of_not_permitted hp).2]

theorem run_written_structured (h : a.Consistent) (hf : a.format = .json) (events : List Event)
    (hc : ∀ c, .call c ∈ events → c.operation ≠ .finish) :
    (a.run events).sink.written = a.sink.written := by
  induction events generalizing a with
  | nil => rfl
  | cons e rest ih =>
    have hrest := fun c hmem => hc c (List.mem_cons_of_mem e hmem)
    cases e with
    | limits l => exact ih h hf hrest
    | call c =>
      have he := effect_perform h c
      rw [run, ih (h.perform c) (he.unchanged.1.trans hf) hrest]
      exact he.written_structured hf (hc c List.mem_cons_self)

theorem operation_ne_finish_of_collecting {explicit : Bool} {sections : List Section} {c : Call}
    (h : .call c ∈ Event.collecting explicit sections) : c.operation ≠ .finish := by
  unfold Event.collecting at h
  rcases List.mem_append.mp h with h | h
  · cases explicit with
    | false => cases h
    | true => cases List.mem_singleton.mp h; decide
  · obtain ⟨s, _, hs⟩ := List.mem_map.mp h
    cases hs
    exact operation_ne_finish_of_added (s := s) rfl

/-- **Streaming equals batch**: over a sink that never refuses, every call of a whole report
succeeds and the document of the recorded report is written, in every format, with or without a
`begin`; a structured document is written by `finish` alone. -/
theorem streaming_eq_batch (m : Metadata) (settings : Settings) (sections : List Section) :
    let report : Report := ⟨m, sections.map settings.placed⟩
    ∀ (format : Format) (explicit : Bool),
      let a := start .unlimited format m settings
      let events := Event.whole explicit sections
      (∀ x ∈ a.log events, x.result = .ok ()) ∧
      (a.run events).sink.written = encode (format.encoder.head m ++
        String.join (report.sections.map format.encoder.sectionText) ++
        format.encoder.tail report) ∧
      (a.run events).report = report ∧
      (format = .json →
        ∀ sofar, sofar <+: Event.collecting explicit sections →
          (a.run sofar).sink.written = []) := by
  intro report format explicit a events
  obtain ⟨hok, hreport, hwritten⟩ := run_whole format m settings explicit sections
  refine ⟨hok, hwritten, hreport, fun hjson sofar hsofar => ?_⟩
  exact run_written_structured (consistent_start .unlimited format m settings) hjson sofar
    fun c hc => operation_ne_finish_of_collecting (hsofar.subset hc)

end Assembler

end AdapterReport
