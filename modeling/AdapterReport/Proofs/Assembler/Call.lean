import AdapterReport.Assembler
import AdapterReport.Proofs.Sink

/-!
# The calls of an assembler

`Call` lists what can be asked of an assembler, and `Call.perform` answers it. For an assembler that
is open and holds its sink, each operation is given by one equation (`begin_of_ready`,
`addSection_of_open`, `finish_of_open`): which bytes go to the sink, and what the assembler behind
the operation is if all of them fit and if they do not. Every other call is refused
(`begin_of_not_ready`, `addSection_of_not_open`, `finish_of_not_open`).
-/

namespace AdapterReport

open Text.Utf8 (encode)

/-- Whether sections can still be added. -/
def Stage.isOpen : Stage → Bool
  | .ready | .collecting => true
  | .rendering | .closed => false

/-- A call of an assembler. -/
inductive Call where
  | begin
  | addSection (s : Section)
  | addTable (t : Table)
  | addSummary (s : Summary)
  | addText (title : String) (id : Option String) (text : String) (delimited : Bool)
  | finish

namespace Call

/-- The operation that a call asks for, as failures name it. -/
def operation : Call → Operation
  | .begin => .begin
  | .addSection _ | .addTable _ | .addSummary _ | .addText _ _ _ _ => .addSection
  | .finish => .finish

/-- The section that a call asks to add. -/
def added? : Call → Option Section
  | .addSection s => some s
  | .addTable t => some (.ofTable t)
  | .addSummary s => some (.ofSummary s)
  | .addText title id text delimited => some (.ofText title id text delimited)
  | .begin | .finish => none

/-- Whether a call is for this stage. -/
def isPermitted (c : Call) (stage : Stage) : Bool :=
  match c.operation with
  | .begin => stage = .ready
  | .addSection | .finish => stage.isOpen

/-- Answers a call. -/
def perform : Call → Assembler → Assembler.Outcome
  | .begin, a => a.begin
  | .addSection s, a => a.addSection s
  | .addTable t, a => a.addTable t
  | .addSummary s, a => a.addSummary s
  | .addText title id text delimited, a => a.addText title id text delimited
  | .finish, a => a.finish

/-- A call begins, adds a section or finishes. -/
theorem cases_added (c : Call) : c = .begin ∨ (∃ s, c.added? = some s) ∨ c = .finish := by
  cases c <;> simp [added?]

theorem perform_of_added {c : Call} {s : Section} (h : c.added? = some s) (a : Assembler) :
    c.perform a = a.addSection s := by
  cases c <;> simp only [added?, Option.some.injEq, reduceCtorEq] at h <;> subst h <;> rfl

theorem operation_of_added {c : Call} {s : Section} (h : c.added? = some s) :
    c.operation = .addSection := by
  cases c <;> first | rfl | simp [added?] at h

end Call

namespace Assembler

variable {a : Assembler}

/-! ## Bytes -/

/-- What stands before the first section. -/
def headBytes (a : Assembler) : List UInt8 :=
  encode (a.format.encoder.head a.report.metadata)

/-- What has to be written before a section can be: the head, if it is not written yet. -/
def pendingBytes (a : Assembler) : List UInt8 :=
  if a.stage = .ready then a.headBytes else []

/-- A section as it is added. -/
def sectionBytes (a : Assembler) (s : Section) : List UInt8 :=
  encode (a.format.encoder.sectionText (a.placed s))

/-- What stands behind the sections that have been added. -/
def tailBytes (a : Assembler) : List UInt8 :=
  encode (a.format.encoder.tail a.report)

/-! ## Halfway -/

/-- The assembler whose sink takes these bytes. -/
def accept (a : Assembler) (bs : List UInt8) : Assembler :=
  { a with sink := a.sink.accept bs }

/-- The assembler whose sink is asked to flush. -/
def flushed (a : Assembler) : Assembler :=
  { a with sink := a.sink.flushed }

/-- The assembler behind its head. -/
def begun (a : Assembler) : Assembler :=
  { a.accept a.pendingBytes with stage := .collecting }

/-- The assembler that has let go of its sink to write its tail. -/
def closing (a : Assembler) : Assembler :=
  { a.begun with stage := .rendering, holdsSink := false }

@[simp] theorem accept_stage (bs : List UInt8) : (a.accept bs).stage = a.stage := rfl
@[simp] theorem accept_sink (bs : List UInt8) : (a.accept bs).sink = a.sink.accept bs := rfl
@[simp] theorem flushed_stage : a.flushed.stage = a.stage := rfl
@[simp] theorem begun_stage : a.begun.stage = .collecting := rfl
@[simp] theorem begun_holdsSink : a.begun.holdsSink = a.holdsSink := rfl
@[simp] theorem begun_sink : a.begun.sink = a.sink.accept a.pendingBytes := rfl
@[simp] theorem closing_stage : a.closing.stage = .rendering := rfl

/-! ## Steps of an operation -/

@[simp] theorem andThen_ok (a : Assembler) (next : Assembler → Outcome) :
    Outcome.andThen (.ok (), a) next = next a := rfl

@[simp] theorem andThen_error (e : AssemblyError) (a : Assembler) (next : Assembler → Outcome) :
    Outcome.andThen (.error e, a) next = (.error e, a) := rfl

theorem require_of_stage {stage : Stage} (h : a.stage = stage) (operation : Operation) :
    a.require stage operation = (.ok (), a) := by
  simp [require, h]

theorem requireSink_of_held (hs : a.holdsSink = true) (operation : Operation) :
    a.requireSink operation = (.ok (), a) := by
  simp [requireSink, hs]

theorem releaseSink_of_held (hs : a.holdsSink = true) (operation : Operation) :
    a.releaseSink operation = (.ok (), { a with holdsSink := false }) := by
  rw [releaseSink, requireSink_of_held hs, andThen_ok]

theorem write_andThen (a : Assembler) (texts : List String) (next : Assembler → Outcome) :
    (a.write texts).andThen next =
      if a.sink.fits (encode (String.join texts)) then next (a.accept (encode (String.join texts)))
      else (.error (.sink a.sink.whenFull), a.accept (encode (String.join texts))) := by
  simp only [write, Sink.writeAll_eq]
  split <;> rfl

theorem flush_andThen (a : Assembler) (next : Assembler → Outcome) :
    a.flush.andThen next =
      if a.sink.refusesFlush then
        (.error (.sink .flushRefused), a.flushed)
      else next a.flushed := by
  simp only [flush, Sink.flush_eq]
  split <;> rfl

/-! ## Operations -/

theorem begin_of_not_ready (h : a.stage ≠ .ready) :
    a.begin = (.error (.wrongStage .begin a.stage), a) := by
  simp [begin, require, h]

theorem begin_of_ready (hr : a.stage = .ready) (hs : a.holdsSink = true) :
    a.begin =
      if a.sink.fits a.pendingBytes then (.ok (), a.begun)
      else (.error (.sink a.sink.whenFull), a.accept a.pendingBytes) := by
  have hp : a.pendingBytes = a.headBytes := if_pos hr
  rw [begin, require_of_stage hr, andThen_ok, requireSink_of_held hs, andThen_ok, write_andThen,
    begun, hp]
  rfl

theorem ensureBegun_of_open (hopen : a.stage.isOpen = true) (hs : a.holdsSink = true) :
    a.ensureBegun =
      if a.sink.fits a.pendingBytes then (.ok (), a.begun)
      else (.error (.sink a.sink.whenFull), a.accept a.pendingBytes) := by
  by_cases hr : a.stage = .ready
  · rw [ensureBegun, if_pos hr, begin_of_ready hr hs]
  · have hc : a.stage = .collecting := by
      cases h : a.stage <;> simp_all [Stage.isOpen]
    have hp : a.pendingBytes = [] := if_neg hr
    rw [ensureBegun, if_neg hr, begun, hp, Sink.fits_nil, if_pos rfl, accept, Sink.accept_nil, ← hc]

/-- A closed assembler neither begins nor fails here; the check of the stage follows. -/
theorem ensureBegun_of_not_open (h : a.stage.isOpen = false) : a.ensureBegun = (.ok (), a) := by
  have hne : a.stage ≠ .ready := fun he => by simp [he, Stage.isOpen] at h
  simp [ensureBegun, hne]

theorem require_of_not_open (h : a.stage.isOpen = false) (operation : Operation) :
    a.require .collecting operation = (.error (.wrongStage operation a.stage), a) := by
  have hne : a.stage ≠ .collecting := fun he => by simp [he, Stage.isOpen] at h
  simp [require, hne]

theorem addSection_of_not_open (h : a.stage.isOpen = false) (s : Section) :
    a.addSection s = (.error (.wrongStage .addSection a.stage), a) := by
  simp [addSection, ensureBegun_of_not_open h, require_of_not_open h]

theorem finish_of_not_open (h : a.stage.isOpen = false) :
    a.finish = (.error (.wrongStage .finish a.stage), a) := by
  simp [finish, ensureBegun_of_not_open h, require_of_not_open h]

theorem addSection_of_open (hopen : a.stage.isOpen = true) (hs : a.holdsSink = true)
    (hfit : a.sink.fits a.pendingBytes = true) (s : Section) :
    a.addSection s =
      if a.sink.fits (a.pendingBytes ++ a.sectionBytes s) then
        (.ok (), { a.begun.accept (a.sectionBytes s) with report := a.report.push (a.placed s) })
      else (.error (.sink a.sink.whenFull), a.begun.accept (a.sectionBytes s)) := by
  rw [addSection, ensureBegun_of_open hopen hs, if_pos hfit, andThen_ok,
    require_of_stage begun_stage, andThen_ok, requireSink_of_held (begun_holdsSink.trans hs),
    andThen_ok, write_andThen, Sink.fits_append, hfit, Bool.true_and]
  rfl

theorem finish_of_open (hopen : a.stage.isOpen = true) (hs : a.holdsSink = true)
    (hfit : a.sink.fits a.pendingBytes = true) :
    a.finish =
      if a.sink.fits (a.pendingBytes ++ a.tailBytes) then
        if a.sink.refusesFlush then
          (.error (.sink .flushRefused), (a.closing.accept a.tailBytes).flushed)
        else (.ok (), { (a.closing.accept a.tailBytes).flushed with stage := .closed })
      else (.error (.sink a.sink.whenFull), a.closing.accept a.tailBytes) := by
  have hrelease : releaseSink .finish { a.begun with stage := .rendering } = (.ok (), a.closing) :=
    releaseSink_of_held (a := { a.begun with stage := .rendering }) hs .finish
  rw [finish, ensureBegun_of_open hopen hs, if_pos hfit, andThen_ok,
    require_of_stage begun_stage, andThen_ok, enter, andThen_ok, hrelease, andThen_ok,
    write_andThen, flush_andThen, Sink.fits_append, hfit, Bool.true_and]
  rfl

end Assembler

end AdapterReport
