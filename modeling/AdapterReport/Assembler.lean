import AdapterReport.Encoder.Select
import AdapterReport.Settings
import AdapterReport.Sink

/-!
# Assembling a report

An `Assembler` writes one report to one sink:

    ready --begin--> collecting --finish--> rendering --> closed

A streaming format writes each section when it is added, the structured document is written by
`finish`. Every operation gives its result and the assembler behind it, also when it fails; what
was written before the failure stays written.
-/

namespace AdapterReport

/-- Where the making of a report stands. -/
inductive Stage where
  /-- Nothing is written yet. -/
  | ready
  /-- The head is written, sections can be added. -/
  | collecting
  /-- The end is being written. -/
  | rendering
  /-- The sink is flushed and released. -/
  | closed
  deriving DecidableEq

/-- The name of a stage. -/
def Stage.name : Stage → String
  | .ready => "initialized"
  | .collecting => "collecting"
  | .rendering => "rendering"
  | .closed => "closed"

/-- What can be asked of an assembler. -/
inductive Operation where
  | begin
  | addSection
  | finish
  deriving DecidableEq

/-- The name of an operation. -/
def Operation.name : Operation → String
  | .begin => "begin"
  | .addSection => "add section"
  | .finish => "finish"

/-- Why an operation fails. -/
inductive AssemblyError where
  | sink (error : SinkError)
  /-- The operation is not for this stage. -/
  | wrongStage (operation : Operation) (stage : Stage)
  deriving DecidableEq

/-- What is said about an operation that fails. -/
def AssemblyError.message : AssemblyError → String
  | .sink error => "IO error: " ++ error.message
  | .wrongStage operation stage =>
    "cannot " ++ operation.name ++ " while assembler is " ++ stage.name

/-- The making of one report. -/
structure Assembler where
  format : Format
  /-- The metadata, and the sections added so far. -/
  report : Report
  /-- The keys of the sections that start folded. -/
  collapsed : List String
  stage : Stage
  sink : Sink
  /-- Whether the assembler still has the sink. -/
  holdsSink : Bool

namespace Assembler

/-- The result of an operation and the assembler behind it. -/
abbrev Outcome := Except AssemblyError Unit × Assembler

/-- An assembler that has done nothing yet. -/
def start (sink : Sink) (format : Format) (m : Metadata) (settings : Settings) : Assembler :=
  ⟨format, .start m, settings.collapsed, .ready, sink, true⟩

/-- Goes on with the assembler behind an operation, unless it has failed. -/
def Outcome.andThen (o : Outcome) (next : Assembler → Outcome) : Outcome :=
  match o with
  | (.ok (), a) => next a
  | (.error e, a) => (.error e, a)

/-- Writes texts one after the other to the sink, up to the first one that is refused. -/
def write (texts : List String) (a : Assembler) : Outcome :=
  let (result, sink) := a.sink.writeAll texts
  (result.mapError .sink, { a with sink := sink })

/-- Flushes the sink. -/
def flush (a : Assembler) : Outcome :=
  let (result, sink) := a.sink.flush
  (result.mapError .sink, { a with sink := sink })

/-- Fails unless the assembler is at this stage. -/
def require (stage : Stage) (operation : Operation) (a : Assembler) : Outcome :=
  if a.stage = stage then (.ok (), a) else (.error (.wrongStage operation a.stage), a)

/-- Fails if the assembler has let go of the sink. -/
def requireSink (operation : Operation) (a : Assembler) : Outcome :=
  if a.holdsSink then (.ok (), a) else (.error (.wrongStage operation a.stage), a)

/-- Goes over to another stage. -/
def enter (stage : Stage) (a : Assembler) : Outcome :=
  (.ok (), { a with stage := stage })

/-- Lets go of the sink, if the assembler still has it. -/
def releaseSink (operation : Operation) (a : Assembler) : Outcome :=
  (a.requireSink operation).andThen fun a => (.ok (), { a with holdsSink := false })

/-- Writes what stands before the first section. -/
def begin (a : Assembler) : Outcome :=
  (a.require .ready .begin).andThen fun a => (a.requireSink .begin).andThen fun a =>
    (a.write (a.format.encoder.headWrites a.report.metadata)).andThen (enter .collecting)

/-- Begins, if that has not been done. -/
def ensureBegun (a : Assembler) : Outcome :=
  if a.stage = .ready then a.begin else (.ok (), a)

/-- A section, folded if it asks for it itself or its key is listed. -/
def placed (a : Assembler) (s : Section) : Section :=
  { s with collapsed := s.collapsed || a.collapsed.contains s.key }

/-- Adds a section at the end. It is recorded only when all of it is written. -/
def addSection (s : Section) (a : Assembler) : Outcome :=
  a.ensureBegun.andThen fun a => (a.require .collecting .addSection).andThen fun a =>
    let s := a.placed s
    (a.requireSink .addSection).andThen fun a =>
      (a.write (a.format.encoder.sectionWrites s)).andThen fun a =>
        (.ok (), { a with report := a.report.push s })

/-- Adds a table. -/
def addTable (t : Table) (a : Assembler) : Outcome :=
  a.addSection (.ofTable t)

/-- Adds the summary. -/
def addSummary (s : Summary) (a : Assembler) : Outcome :=
  a.addSection (.ofSummary s)

/-- Adds free text. -/
def addText (title : String) (id : Option String) (text : String) (delimited : Bool)
    (a : Assembler) : Outcome :=
  a.addSection (.ofText title id text delimited)

/-- Writes what stands behind the last section and flushes the sink. The sink is let go of before
anything is written to it, so it does not come back when that fails. -/
def finish (a : Assembler) : Outcome :=
  a.ensureBegun.andThen fun a => (a.require .collecting .finish).andThen fun a =>
    (a.enter .rendering).andThen fun a => (a.releaseSink .finish).andThen fun a =>
      (a.write (a.format.encoder.tailWrites a.report)).andThen fun a =>
        a.flush.andThen (enter .closed)

end Assembler

end AdapterReport
