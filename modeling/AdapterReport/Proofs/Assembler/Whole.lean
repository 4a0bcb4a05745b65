import AdapterReport.Generate
import AdapterReport.Proofs.Assembler.Lifecycle
import AdapterReport.Proofs.Assembler.Streaming

/-!
# Whole reports over any sink

`writeReport` stops at the first operation that fails. `writeReport_meets`: over any sink, either
all sections are recorded and the document of the report is written, or the sink has refused
something and the sections recorded are the first ones. `written_of_ok` says the same of a run in
which no call fails.

`Outcome.Meets P Q` says what holds behind an operation, `P` if it has succeeded and `Q` if it has
failed; `Meets.andThen` takes it along a chain. `Behind sink … done a` is the invariant of the
chain: all operations up to the sections `done` have succeeded, over a sink that began as `sink`.
-/

namespace AdapterReport

open Text.Utf8 (encode)

/-- The sink takes everything and flushes. -/
def Sink.NeverRefuses (s : Sink) : Prop :=
  s.budget = none ∧ s.refusesFlush = false

namespace Assembler

variable {a a' : Assembler} {c : Call} {P P' Q : Assembler → Prop}
  {sink : Sink} {format : Format} {m : Metadata} {settings : Settings} {done all : List Section}

/-! ## Chains of operations -/

/-- What holds behind an operation, by whether it has succeeded. -/
def Outcome.Meets (o : Outcome) (P Q : Assembler → Prop) : Prop :=
  match o.1 with
  | .ok () => P o.2
  | .error _ => Q o.2

theorem Outcome.Meets.andThen {o : Outcome} {next : Assembler → Outcome} (h : o.Meets P Q)
    (hnext : ∀ a, P a → (next a).Meets P' Q) : (o.andThen next).Meets P' Q := by
  obtain ⟨result, a⟩ := o
  cases result with
  | ok _ => exact hnext a h
  | error e => exact h

theorem Outcome.Meets.of_ok {o : Outcome} (h : o.Meets P Q) (hok : o.1 = .ok ()) : P o.2 := by
  unfold Meets at h
  rwa [hok] at h

theorem Outcome.Meets.of_error {o : Outcome} {e : AssemblyError} (h : o.Meets P Q)
    (he : o.1 = .error e) : Q o.2 := by
  unfold Meets at h
  rwa [he] at h

/-- What holds behind a call is what its rules say. -/
theorem meets_of_effect (h : a.Consistent) (c : Call) (hok : ∀ a', Effect a c (.ok ()) a' → P a')
    (herror : ∀ e a', Effect a c (.error e) a' → Q a') : (c.perform a).Meets P Q := by
  have he := effect_perform h c
  unfold Outcome.Meets
  cases hr : (c.perform a).1 with
  | ok _ => exact hok _ (hr ▸ he)
  | error e => exact herror e _ (hr ▸ he)

/-! ## Calls that succeed -/

theorem Effect.fits_of_ok (he : Effect a c (.ok ()) a') :
    c.isPermitted a.stage = true ∧ a.sink.fits (c.output a) = true ∧ a'.pendingBytes = [] := by
  cases he with
  | begun hr hfits => exact ⟨by rw [hr]; rfl, by rwa [output_begin], rfl⟩
  | added hc hopen hfits =>
    rw [Call.output, ownBytes_of_added hc, isPermitted_of_added hc]
    exact ⟨hopen, hfits, rfl⟩
  | closed hopen hfits _ => exact ⟨hopen, hfits, rfl⟩

/-- A call that succeeds writes all that it has to write, behind the head that was due. -/
theorem Effect.written_of_ok (he : Effect a c (.ok ()) a') :
    a'.sink.written ++ a'.pendingBytes = a.sink.written ++ a.pendingBytes ++ c.ownBytes a := by
  obtain ⟨hpermitted, hfits, hpending⟩ := he.fits_of_ok
  rw [hpending, List.append_nil, he.written hpermitted, Sink.accept_written,
    Sink.covered_of_fits hfits, Call.output, List.append_assoc]

theorem Effect.neverRefuses {r : Except AssemblyError Unit} (he : Effect a c r a')
    (h : a.sink.NeverRefuses) : a'.sink.NeverRefuses := by
  have haccept (s : Sink) (bs : List UInt8) (hs : s.NeverRefuses) : (s.accept bs).NeverRefuses :=
    ⟨by rw [Sink.accept, hs.1]; rfl, hs.2⟩
  cases he with
  | refused _ => exact h
  | headCut _ _ _ => exact haccept _ _ h
  | begun _ _ => exact haccept _ _ h
  | sectionCut _ _ _ _ => exact haccept _ _ (haccept _ _ h)
  | added _ _ _ => exact haccept _ _ (haccept _ _ h)
  | tailCut _ _ _ => exact haccept _ _ (haccept _ _ h)
  | flushRefused _ _ _ => exact haccept _ _ (haccept _ _ h)
  | closed _ _ _ => exact haccept _ _ (haccept _ _ h)

theorem Effect.report_eq {r : Except AssemblyError Unit} (he : Effect a c r a') :
    a'.report =
      ⟨a.report.metadata, a.report.sections ++ (Answer.mk c a r a').recorded?.toList⟩ := by
  have hmetadata := he.metadata
  have hsections := he.sections
  generalize a'.report = report at hmetadata hsections
  cases report
  exact congr (congrArg Report.mk hmetadata) hsections

/-! ## The invariant -/

/-- All operations up to the sections `done` have succeeded, over a sink that began as `sink`. -/
structure Behind (sink : Sink) (format : Format) (m : Metadata) (settings : Settings)
    (done : List Section) (a : Assembler) : Prop where
  format_eq : a.format = format
  collapsed_eq : a.collapsed = settings.collapsed
  report_eq : a.report = settings.report m done
  consistent : a.Consistent
  isOpen : a.stage.isOpen = true
  neverRefuses : sink.NeverRefuses → a.sink.NeverRefuses
  /-- What is written, with the head if it is pending, is the document so far. -/
  written : a.sink.written ++ a.pendingBytes = sink.written ++ encode (format.encoder.head m ++
    String.join ((settings.report m done).sections.map format.encoder.sectionText))

/-- The sink has refused something, and the first ones of the sections `all` are recorded. -/
structure Stopped (sink : Sink) (m : Metadata) (settings : Settings) (all : List Section)
    (a : Assembler) : Prop where
  refused : ¬ sink.NeverRefuses
  report_eq : ∃ done, done <+: all ∧ a.report = settings.report m done

/-- All of the sections `all` are recorded, and the document is written. -/
structure Finished (sink : Sink) (format : Format) (m : Metadata) (settings : Settings)
    (all : List Section) (a : Assembler) : Prop where
  report_eq : a.report = settings.report m all
  written : a.sink.written =
    sink.written ++ encode (format.encoder.document (settings.report m all))

theorem Behind.start (sink : Sink) (format : Format) (m : Metadata) (settings : Settings) :
    Behind sink format m settings [] (.start sink format m settings) where
  format_eq := rfl
  collapsed_eq := rfl
  report_eq := rfl
  consistent := rfl
  isOpen := rfl
  neverRefuses h := h
  written := by
    rw [Settings.report, List.map_nil, List.map_nil, String.join_nil, String.append_empty]
    rfl

theorem Behind.placed (h : Behind sink format m settings done a) :
    a.placed = settings.placed := by
  funext s
  rw [Assembler.placed, h.collapsed_eq]
  rfl

/-- A call that succeeds records the section that it adds, if it adds one. -/
theorem Behind.report_of_ok (h : Behind sink format m settings done a)
    (he : Effect a c (.ok ()) a') : a'.report = settings.report m (done ++ c.added?.toList) := by
  have hrecorded : (Answer.mk c a (.ok ()) a').recorded?.toList =
      c.added?.toList.map settings.placed := by
    show (c.added?.map a.placed).toList = _
    rw [h.placed]
    cases c.added? <;> rfl
  rw [he.report_eq, h.report_eq, hrecorded, Settings.report, Settings.report, List.map_append]

/-- A call that fails at the sink records nothing. -/
theorem Behind.stopped (h : Behind sink format m settings done a) (hall : done <+: all)
    (hpermitted : c.isPermitted a.stage = true) {e : AssemblyError}
    (he : Effect a c (.error e) a') : Stopped sink m settings all a' where
  refused hnever := by
    obtain ⟨hbudget, hflush⟩ := h.neverRefuses hnever
    cases (he.of_unlimited hpermitted hbudget hflush).1
  report_eq := by
    refine ⟨done, hall, ?_⟩
    rw [he.report_eq, h.report_eq]
    exact congrArg (Report.mk m) (List.append_nil _)

/-- A call that succeeds and leaves the assembler open keeps the invariant. -/
theorem Behind.call (h : Behind sink format m settings done a) (he : Effect a c (.ok ()) a')
    (hopen : a'.stage.isOpen = true)
    (hbytes : c.ownBytes a =
      encode (String.join ((c.added?.toList.map settings.placed).map format.encoder.sectionText))) :
    Behind sink format m settings (done ++ c.added?.toList) a' where
  format_eq := he.unchanged.1.trans h.format_eq
  collapsed_eq := he.unchanged.2.trans h.collapsed_eq
  report_eq := h.report_of_ok he
  consistent := he.consistent h.consistent
  isOpen := hopen
  neverRefuses hnever := he.neverRefuses (h.neverRefuses hnever)
  written := by
    rw [he.written_of_ok, h.written, hbytes, List.append_assoc, ← Text.Utf8.encode_append,
      String.append_assoc]
    simp [Settings.report]

/-! ## The chain -/

theorem Behind.begin (h : Behind sink format m settings [] a) (hr : a.stage = .ready) :
    a.begin.Meets (Behind sink format m settings []) (Stopped sink m settings all) := by
  have hpermitted : Call.begin.isPermitted a.stage = true := by rw [hr]; rfl
  refine meets_of_effect h.consistent .begin (fun a' he => ?_)
    fun _ _ he => h.stopped List.nil_prefix hpermitted he
  have hopen : a'.stage.isOpen = true := by
    cases he with
    | begun _ _ => rfl
    | added hc _ _ => cases hc
  exact h.call he hopen rfl

theorem Behind.addSection (h : Behind sink format m settings done a) (s : Section)
    (hall : done <+: all) :
    (a.addSection s).Meets (Behind sink format m settings (done ++ [s]))
      (Stopped sink m settings all) := by
  have hpermitted : (Call.addSection s).isPermitted a.stage = true := h.isOpen
  refine meets_of_effect h.consistent (.addSection s) (fun a' he => ?_)
    fun _ _ he => h.stopped hall hpermitted he
  have hopen : a'.stage.isOpen = true := by
    cases he with
    | added _ _ _ => rfl
  refine h.call he hopen ?_
  show encode (a.format.encoder.sectionText (a.placed s)) = _
  rw [h.format_eq, h.placed]
  simp [Call.added?]

theorem Behind.addSections (h : Behind sink format m settings done a) (sections : List Section) :
    (a.addSections sections).Meets (Behind sink format m settings (done ++ sections))
      (Stopped sink m settings (done ++ sections)) := by
  induction sections generalizing a done with
  | nil =>
    show Behind sink format m settings (done ++ []) a
    rwa [List.append_nil]
  | cons s rest ih =>
    refine (h.addSection s (List.prefix_append _ _)).andThen fun b hb => ?_
    have hrest := ih hb
    rwa [List.append_assoc] at hrest

theorem Behind.finish (h : Behind sink format m settings done a) :
    a.finish.Meets (Finished sink format m settings done) (Stopped sink m settings done) := by
  have hpermitted : Call.finish.isPermitted a.stage = true := h.isOpen
  refine meets_of_effect h.consistent .finish (fun a' he => ⟨?_, ?_⟩)
    fun _ _ he => h.stopped List.prefix_rfl hpermitted he
  · rw [h.report_of_ok he]
    exact congrArg (settings.report m) (List.append_nil _)
  · have hwritten := he.written_of_ok
    have htail : Call.finish.ownBytes a =
        encode (format.encoder.tail (settings.report m done)) := by
      rw [← h.report_eq, ← h.format_eq]
      rfl
    rw [he.fits_of_ok.2.2, List.append_nil, h.written, htail, List.append_assoc,
      ← Text.Utf8.encode_append] at hwritten
    exact hwritten

theorem Outcome.andThen_congr {o : Outcome} {next next' : Assembler → Outcome}
    (h : next o.2 = next' o.2) : o.andThen next = o.andThen next' := by
  obtain ⟨result, a⟩ := o
  cases result with
  | ok _ => exact h
  | error _ => rfl

/-- A report has the sections of its facts in the format with which it has begun. -/
theorem writeReport_eq (sink : Sink) (format : Format) (m : Metadata) (settings : Settings)
    (facts : HostFacts) :
    writeReport sink format m settings facts =
      Outcome.andThen (start sink format m settings).begin fun a =>
        (a.addSections (facts.sections settings format)).andThen finish := by
  refine Outcome.andThen_congr ?_
  have hformat : (start sink format m settings).begin.2.format = format :=
    (effect_begin (consistent_start sink format m settings)).unchanged.1
  rw [hformat]

/-- **A report that is written in one go**, over any sink: all of it is recorded and written, or the
sink has refused something and the first sections are recorded. -/
theorem writeReport_meets (sink : Sink) (format : Format) (m : Metadata) (settings : Settings)
    (facts : HostFacts) :
    (writeReport sink format m settings facts).Meets
      (Finished sink format m settings (facts.sections settings format))
      (Stopped sink m settings (facts.sections settings format)) := by
  rw [writeReport_eq]
  exact ((Behind.start sink format m settings).begin rfl).andThen fun a ha =>
    (ha.addSections _).andThen fun b hb => hb.finish

/-- What is recorded and written of a report: over any sink the first sections, all of them if the
report succeeds, and over a sink that never refuses it does. -/
theorem writeReport_spec (sink : Sink) (format : Format) (m : Metadata) (settings : Settings)
    (facts : HostFacts) :
    let o := writeReport sink format m settings facts
    let report := settings.report m (facts.sections settings format)
    o.2.report.sections <+: report.sections ∧
    (o.1 = .ok () → o.2.report = report) ∧
    (sink.NeverRefuses → o.1 = .ok () ∧
      o.2.sink.written = sink.written ++ encode (format.encoder.document report)) := by
  intro o report
  have hmeets : o.Meets _ _ := writeReport_meets sink format m settings facts
  refine ⟨?_, fun hok => (hmeets.of_ok hok).report_eq, fun hnever => ?_⟩
  · cases hr : o.1 with
    | ok _ =>
      have heq := congrArg Report.sections (hmeets.of_ok hr).report_eq
      exact ⟨[], (List.append_nil _).trans heq⟩
    | error e =>
      obtain ⟨done, hdone, heq⟩ := (hmeets.of_error hr).report_eq
      rw [heq]
      exact hdone.map settings.placed
  · have hok : o.1 = .ok () := by
      cases hr : o.1 with
      | ok _ => rfl
      | error e => exact absurd hnever (hmeets.of_error hr).refused
    exact ⟨hok, (hmeets.of_ok hok).written⟩

/-! ## Runs without a fault -/

theorem Behind.adds (h : Behind sink format m settings done a) (sections : List Section)
    (hok : ∀ x ∈ a.log (sections.map fun s => .call (.addSection s)), x.result = .ok ()) :
    Behind sink format m settings (done ++ sections)
      (a.run (sections.map fun s => .call (.addSection s))) := by
  induction sections generalizing a done with
  | nil => rwa [List.append_nil]
  | cons s rest ih =>
    have hadded := (h.addSection s List.prefix_rfl).of_ok (hok _ List.mem_cons_self)
    have hrest := ih hadded fun x hx => hok x (List.mem_cons_of_mem _ hx)
    rwa [List.append_assoc] at hrest

theorem behind_collecting {explicit : Bool} {sections : List Section}
    (hok : ∀ x ∈ (start sink format m settings).log (Event.collecting explicit sections),
      x.result = .ok ()) :
    Behind sink format m settings sections
      ((start sink format m settings).run (Event.collecting explicit sections)) := by
  have h := Behind.start sink format m settings
  cases explicit with
  | false => exact h.adds sections hok
  | true =>
    have hmeets : (start sink format m settings).begin.Meets _ (Stopped sink m settings []) :=
      h.begin rfl
    have hbegun := hmeets.of_ok (hok _ List.mem_cons_self)
    exact hbegun.adds sections fun x hx => hok x (List.mem_cons_of_mem _ hx)

/-- **A run without a fault** writes the document of its report, over any sink. -/
theorem written_of_ok {explicit : Bool} {sections : List Section}
    (hok : ∀ x ∈ (start sink format m settings).log (Event.whole explicit sections),
      x.result = .ok ()) :
    ((start sink format m settings).run (Event.whole explicit sections)).sink.written =
      sink.written ++ encode (format.encoder.document (settings.report m sections)) := by
  rw [Event.whole, log_append] at hok
  have h := behind_collecting fun x hx => hok x (List.mem_append_left _ hx)
  have hfinish := hok _ (List.mem_append_right _ List.mem_cons_self)
  rw [Event.whole, run_append]
  exact (h.finish.of_ok hfinish).written

end Assembler

end AdapterReport
