import AdapterReport.FileTree.Standard
import AdapterReport.Tool.System.Process

/-!
# Machines

A `Machine` holds the processes of a host, its pipes and its files at one moment. `Machine.ready`
says whether a process can go on, and `Machine.perform` lets it do so: the system answers what the
process asks. The first process is the one that is watched.
-/

namespace AdapterReport

/-- What can be opened. -/
inductive Opened where
  | pipe (number : Nat)
  /-- One of the two channels that are watched. -/
  | channel (c : Channel)
  | void
  | zeros
  | full
  /-- A file, with a position in it that all who share it move. -/
  | file (number : Nat)
  | directory (full : List EntryName)
  deriving DecidableEq

/-- What a descriptor stands for. -/
structure Handle where
  object : Opened
  reads : Bool
  writes : Bool
  deriving DecidableEq

/-- A file that is open. -/
structure OpenFile where
  place : List EntryName
  position : Nat
  /-- Whether everything is written behind what is there. -/
  appends : Bool

/-- A process that has not ended. -/
structure Running where
  id : Nat
  parent : Nat
  /-- What it does from now on. -/
  code : Process
  /-- When it can go on. -/
  wake : Time
  descriptors : List (Nat × Handle)
  /-- What it has said about signals. -/
  actions : List (Nat × SignalAction)
  /-- The signals that it has caught and not asked for, the first one first. -/
  caught : List Nat
  /-- Whether a signal has come while it could not go on. -/
  interrupted : Bool
  stopped : Bool
  /-- The signals that have come while it was stopped. -/
  delayed : List Nat
  /-- The signal that has ended it, if there is one; its end takes some time. -/
  fatal : Option Nat
  /-- The full path of the working directory. -/
  working : List EntryName

namespace Running

/-- What a descriptor stands for. -/
def handle? (p : Running) (descriptor : Nat) : Option Handle := p.descriptors.lookup descriptor

/-- The process with a descriptor that stands for something. -/
def withHandle (p : Running) (descriptor : Nat) (h : Handle) : Running :=
  { p with descriptors := (descriptor, h) :: p.descriptors.filter (·.1 != descriptor) }

/-- The process without a descriptor. -/
def without (p : Running) (descriptor : Nat) : Running :=
  { p with descriptors := p.descriptors.filter (·.1 != descriptor) }

/-- The first descriptor from some number on that stands for nothing. -/
def free (p : Running) (least : Nat) : Nat :=
  ((List.range (p.descriptors.length + 1)).map (least + ·)).find?
    (fun n => (p.handle? n).isNone) |>.getD least

/-- What the process has said about a signal. -/
def actionOf (p : Running) (signal : Nat) : SignalAction :=
  (p.actions.lookup signal).getD .default

/-- Whether the process can write to a pipe. -/
def writesTo (p : Running) (pipe : Nat) : Bool :=
  p.descriptors.any fun d => d.2.object == .pipe pipe && d.2.writes

/-- Whether the process can read from a pipe. -/
def readsFrom (p : Running) (pipe : Nat) : Bool :=
  p.descriptors.any fun d => d.2.object == .pipe pipe && d.2.reads

end Running

/-- The processes, pipes and files of a host. -/
structure Machine where
  now : Time
  files : FileTree
  running : List Running
  /-- The processes whose end their parent does not know yet: number, number of the parent, end. -/
  dead : List (Nat × Nat × Ending)
  /-- What has been written to each pipe and not been read. -/
  pipes : List (Nat × List UInt8)
  opened : List (Nat × OpenFile)
  /-- What was written to the channels, the last piece first. -/
  written : List Write
  /-- A number that no process, pipe or open file has had. -/
  next : Nat
  /-- How the first process has ended. -/
  outcome : Option (Time × Ending)

namespace Machine

/-! ## What things cost -/

/-- How long a request takes. -/
def requestTime : Time := 2

/-- How long it takes to move some bytes. -/
def movingTime (bytes : Nat) : Time := 2 + bytes / 20

/-- How long a process takes to start another one. -/
def forkTime : Time := 150

/-- How long it takes until a process that was started does something. -/
def startTime : Time := 500

/-- How long it takes until a signal is noticed by a process that could not go on for some time. One
that has just come to rest is still awake. -/
def noticeTime (waited : Time) : Time := if waited < 5000 then 1 else 100

/-- How long it takes until a process has ended that was ended by a signal of another one. -/
def dyingTime : Time := 200

/-- How much a pipe holds. -/
def capacity : Nat := 65536

/-- The greatest number of bytes that reach a pipe in one piece or not at all. -/
def unbroken : Nat := 4096

/-! ## The parts of a machine -/

/-- The number of the first process. -/
def first : Nat := 4242

/-- A process that is running. -/
def process? (m : Machine) (id : Nat) : Option Running := m.running.find? (·.id == id)

/-- The machine with a process as it is now. -/
def update (m : Machine) (p : Running) : Machine :=
  { m with running := m.running.map fun q => if q.id == p.id then p else q }

/-- What a pipe holds. -/
def held (m : Machine) (pipe : Nat) : List UInt8 := (m.pipes.lookup pipe).getD []

/-- The machine with a pipe that holds something else. -/
def hold (m : Machine) (pipe : Nat) (bytes : List UInt8) : Machine :=
  { m with pipes := m.pipes.map fun p => if p.1 == pipe then (pipe, bytes) else p }

/-- Whether some process can write to a pipe. -/
def hasWriter (m : Machine) (pipe : Nat) : Bool := m.running.any (·.writesTo pipe)

/-- Whether some process can read from a pipe. -/
def hasReader (m : Machine) (pipe : Nat) : Bool := m.running.any (·.readsFrom pipe)

/-- Whether some process has an open file. -/
def isHeld (m : Machine) (file : Nat) : Bool :=
  m.running.any fun p => p.descriptors.any (·.2.object == .file file)

/-- The machine without the pipes and the open files that nobody can use. -/
def sweep (m : Machine) : Machine :=
  { m with
    pipes := m.pipes.filter fun p => m.hasWriter p.1 || m.hasReader p.1
    opened := m.opened.filter fun f => m.isHeld f.1 }

/-- Whether a process can go on: what it wants to read is there, what it wants to write has room,
the child that it waits for has ended. -/
def ready (m : Machine) (p : Running) : Bool :=
  !p.stopped && (p.interrupted || p.fatal.isSome ||
    match p.code with
    | .ask (.read descriptor _) _ =>
      match p.handle? descriptor with
      | some ⟨.pipe pipe, true, _⟩ => !(m.held pipe).isEmpty || !m.hasWriter pipe
      | _ => true
    | .ask (.write descriptor bytes) _ =>
      match p.handle? descriptor with
      | some ⟨.pipe pipe, _, true⟩ =>
        let room := capacity - (m.held pipe).length
        bytes.length ≤ room || (unbroken < bytes.length && 0 < room) || !m.hasReader pipe
      | _ => true
    | .ask (.wait true) _ =>
      m.dead.any (·.2.1 == p.id) || !m.running.any (·.parent == p.id)
    | _ => true)

/-! ## Ends and signals -/

/-- A process catches a signal, about which it has said so. -/
def keep (m : Machine) (signal : Nat) (p : Running) : Machine :=
  let caught := if p.caught.contains signal then p.caught else p.caught ++ [signal]
  if p.interrupted || m.ready p then m.update { p with caught := caught }
  else
    m.update { p with
      caught := caught
      interrupted := true
      wake := max p.wake (m.now + noticeTime (m.now - p.wake)) }

/-- The parent of a process that has ended catches the signal for that, if it has said so. -/
def tellParent (m : Machine) (id : Nat) : Machine :=
  match m.process? id with
  | some p =>
    if p.actionOf Signal.childEnded == .caught then m.keep Signal.childEnded p else m
  | none => m

/-- A process ends. Its descriptors are closed, and nobody waits for its children any more. -/
def finish (m : Machine) (p : Running) (ending : Ending) : Machine :=
  let rest := m.running.filter (·.id != p.id)
  let others := m.dead.filter (·.2.1 != p.id)
  let known := rest.any (·.id == p.parent)
  let after := sweep { m with
    running := rest.map fun q => if q.parent == p.id then { q with parent := 1 } else q
    dead := if known then others ++ [(p.id, p.parent, ending)] else others
    outcome := if p.id == first then some (m.now, ending) else m.outcome }
  after.tellParent p.parent

/-- A process is ended by a signal of another one. -/
def strike (m : Machine) (signal : Nat) (p : Running) : Machine :=
  if p.fatal.isSome then m
  else m.update { p with fatal := some signal, stopped := false, wake := m.now + dyingTime }

/-- A signal has its effect on a process. -/
def effect (m : Machine) (signal : Nat) (p : Running) : Machine :=
  let action :=
    if signal == Signal.kill || signal == Signal.stop then .default else p.actionOf signal
  match action with
  | .ignored => m
  | .caught => m.keep signal p
  | .default =>
    match Signal.effectOf signal with
    | .ends => m.strike signal p
    | .stops => m.update { p with stopped := true }
    | .resumes | .nothing => m

/-- Some signals have their effects on the process of a number. -/
def effects (m : Machine) (signals : List Nat) (id : Nat) : Machine :=
  signals.foldl (fun m signal => ((m.process? id).map (m.effect signal)).getD m) m

/-- A process receives a signal. One that is stopped notices most of them only when it goes on. -/
def deliver (m : Machine) (signal : Nat) (p : Running) : Machine :=
  if Signal.effectOf signal == .resumes then
    let m := m.update { p with stopped := false, delayed := [] }
    m.effects (signal :: p.delayed) p.id
  else if p.stopped && signal != Signal.kill then
    m.update { p with delayed := p.delayed ++ [signal] }
  else m.effect signal p

/-- A process receives a signal from itself. If that ends it, it does so at once. -/
def deliverToSelf (m : Machine) (signal : Nat) (p : Running) : Machine :=
  let m := m.deliver signal p
  match m.process? p.id with
  | some p => (p.fatal.map fun signal => m.finish p (.killed signal)).getD m
  | none => m

/-! ## Files -/

/-- What a process finds at a path, with what it has opened in the place of what stands for it. -/
def find (m : Machine) (p : Running) (wanted : FileTree.Wanted) (path : List UInt8) :
    Except SystemError (List EntryName × Option Entry) :=
  match { m.files with working := p.working }.resolve wanted path with
  | .error e => .error (.ofFileError e)
  | .ok (.free directory name) => .ok (directory ++ [name], none)
  | .ok (.found full) =>
    match m.files.entry? full with
    | some (.descriptor n) => if (p.handle? n).isSome then .ok (full, some (.descriptor n))
      else .error .noEntry
    | entry => .ok (full, entry)

/-- The bytes of a file. -/
def contentAt (m : Machine) (place : List EntryName) : List UInt8 :=
  match m.files.entry? place with
  | some (.file content) => content
  | _ => []

/-- The machine with one more open file, and the number of it. -/
def addOpen (m : Machine) (file : OpenFile) : Machine × Nat :=
  ({ m with opened := (m.next, file) :: m.opened, next := m.next + 1 }, m.next)

/-- The machine with an open file as it is now. -/
def withOpen (m : Machine) (number : Nat) (file : OpenFile) : Machine :=
  { m with opened := m.opened.map fun f => if f.1 == number then (number, file) else f }

/-- What comes of opening a path. -/
def openPath (m : Machine) (p : Running) (path : List UInt8) (mode : OpenMode) :
    Except SystemError (Machine × Handle) := do
  let reads := mode == .read || mode == .both
  let writes := mode != .read
  let (full, entry) ← m.find p (if mode == .read then .target else .file) path
  let file (m : Machine) (place : List EntryName) : Machine × Handle :=
    let clears := mode == .write || mode == .fresh
    let files := if clears then m.files.put place (.file []) else m.files
    let (m, number) := addOpen { m with files := files } ⟨place, 0, mode == .append⟩
    (m, ⟨.file number, reads, writes⟩)
  match entry with
  | none =>
    if mode == .read then .error .noEntry
    else .ok (file { m with files := m.files.put full (.file []) } full)
  | some entry =>
    if mode == .fresh && (m.files.entry? full matches some (.file _)) then .error .exists
    else match entry with
      | .directory =>
        if writes then .error .isDirectory else .ok (m, ⟨.directory full, true, false⟩)
      | .file _ => .ok (file m full)
      | .link _ => .error .noEntry
      | .void => .ok (m, ⟨.void, reads, writes⟩)
      | .zeros => .ok (m, ⟨.zeros, reads, writes⟩)
      | .full => .ok (m, ⟨.full, reads, writes⟩)
      | .terminal => .error .noDevice
      | .descriptor n =>
        match p.handle? n with
        | some ⟨.file number, _, _⟩ =>
          .ok (file m (((m.opened.lookup number).map (·.place)).getD full))
        | some h => .ok (m, ⟨h.object, reads, writes⟩)
        | none => .error .noEntry

/-- What is read from a handle: the bytes, and the machine without them where they are gone. -/
def readFrom (m : Machine) (h : Handle) (size : Nat) :
    Except SystemError (Machine × List UInt8) :=
  if !h.reads then .error .badDescriptor
  else match h.object with
    | .pipe pipe =>
      let bytes := m.held pipe
      .ok (m.hold pipe (bytes.drop size), bytes.take size)
    | .channel _ => .error .badDescriptor
    | .void => .ok (m, [])
    | .zeros | .full => .ok (m, List.replicate size 0)
    | .directory _ => .error .isDirectory
    | .file number =>
      match m.opened.lookup number with
      | none => .error .badDescriptor
      | some file =>
        let bytes := ((m.contentAt file.place).drop file.position).take size
        let moved := { file with position := file.position + bytes.length }
        .ok (m.withOpen number moved, bytes)

/-- The machine in which the position behind a handle is further back. -/
def goBack (m : Machine) (h : Handle) (count : Nat) : Machine :=
  match h.object with
  | .file number =>
    match m.opened.lookup number with
    | some file => m.withOpen number { file with position := file.position - count }
    | none => m
  | _ => m

/-- The machine after some bytes were written to a file. -/
def writeToFile (m : Machine) (number : Nat) (bytes : List UInt8) : Machine :=
  match m.opened.lookup number with
  | none => m
  | some file =>
    let content := m.contentAt file.place
    let position := if file.appends then content.length else file.position
    let before := content.take position ++ List.replicate (position - content.length) 0
    let after := content.drop (position + bytes.length)
    let moved := { file with position := position + bytes.length }
    { m with files := m.files.put file.place (.file (before ++ bytes ++ after)) }.withOpen number
      moved

/-- What can be said about what stands at a path. -/
def statusOf (m : Machine) (p : Running) (path : List UInt8) (follow : Bool) :
    Except SystemError FileStatus := do
  let (full, entry) ← m.find p (if follow then .target else .entry) path
  match entry with
  | none => .error .noEntry
  | some .directory => .ok ⟨.directory, 4096, true, full, 0⟩
  | some (.file content) =>
    .ok ⟨.regular, content.length, full.dropLast == FileTree.programDirectory, full, 0⟩
  | some (.link target) => .ok ⟨.link, target.length, true, full, 0⟩
  | some .void | some .zeros | some .full | some .terminal => .ok ⟨.device, 0, false, full, 0⟩
  | some (.descriptor n) =>
    match (p.handle? n).map Handle.object with
    | some (.pipe _) | some (.channel _) => .ok ⟨.pipe, 0, false, full, 0⟩
    | some (.file number) =>
      let file := (m.opened.lookup number).getD ⟨full, 0, false⟩
      .ok ⟨.regular, (m.contentAt file.place).length, false, file.place, file.position⟩
    | some (.directory place) => .ok ⟨.directory, 4096, true, place, 0⟩
    | _ => .ok ⟨.device, 0, false, full, 0⟩

/-- The names in a directory. What stands for a descriptor is there if the descriptor stands for
something, which is also true of the one that the directory itself is read from. -/
def namesIn (m : Machine) (p : Running) (path : List UInt8) :
    Except SystemError (List EntryName) := do
  match ← m.find p .target path with
  | (full, some .directory) =>
    let isThere (name : EntryName) : Bool :=
      match m.files.entry? (full ++ [name]) with
      | some (.descriptor n) => n == p.free 0 || (p.handle? n).isSome
      | _ => true
    .ok ((m.files.names full).filter isThere)
  | (_, some _) => .error .notDirectory
  | (_, none) => .error .noEntry

/-- The name of the program that a path leads to. -/
def programAt (m : Machine) (p : Running) (path : List UInt8) : Except SystemError String := do
  let status ← m.statusOf p path true
  if status.kind == .regular && status.isExecutable then
    .ok (Text.Utf8.decodeLossy (status.place.getLast?.getD []))
  else .error .denied

/-! ## Requests -/

/-- A process goes on, after some time. -/
def goOn (m : Machine) (p : Running) (code : Process) (time : Time) : Machine :=
  m.update { p with code := code, wake := m.now + time, interrupted := false }

/-- A process writes to a handle. Who writes to a pipe that nobody reads receives a signal. -/
def performWrite (m : Machine) (p : Running) (h : Handle) (descriptor : Nat) (bytes : List UInt8)
    (next : Except SystemError Unit → Process) : Machine :=
  let done (m : Machine) : Machine := m.goOn p (next (.ok ())) (movingTime bytes.length)
  if !h.writes then m.goOn p (next (.error .badDescriptor)) requestTime
  else match h.object with
    | .channel c => done { m with written := ⟨m.now, c, bytes⟩ :: m.written }
    | .void | .zeros => done m
    | .full =>
      if bytes.isEmpty then done m else m.goOn p (next (.error .noSpace)) requestTime
    | .directory _ => m.goOn p (next (.error .badDescriptor)) requestTime
    | .file number => done (m.writeToFile number bytes)
    | .pipe pipe =>
      if !m.hasReader pipe then
        let m := m.goOn p (next (.error .brokenPipe)) requestTime
        match m.process? p.id with
        | some p => m.deliverToSelf Signal.pipe p
        | none => m
      else
        let held := m.held pipe
        let room := capacity - held.length
        if bytes.length ≤ room then done (m.hold pipe (held ++ bytes))
        else if room == 0 then m.goOn p (next (.error .interrupted)) requestTime
        else
          (m.hold pipe (held ++ bytes.take room)).goOn p
            (.ask (.write descriptor (bytes.drop room)) next) (movingTime room)

/-- A process sends a signal. -/
def performSend (m : Machine) (p : Running) (signal target : Nat)
    (next : Except SystemError Unit → Process) : Machine :=
  let sent := m.goOn p (next (.ok ())) requestTime
  match sent.process? target with
  | some q =>
    if signal == 0 then sent
    else if q.id == p.id then sent.deliverToSelf signal q
    else sent.deliver signal q
  | none =>
    if m.dead.any (·.1 == target) then sent
    else m.goOn p (next (.error .noProcess)) requestTime

/-- A process sends a signal to a group. All processes are in that of the first one. -/
def performSendGroup (m : Machine) (p : Running) (signal group : Nat)
    (next : Except SystemError Unit → Process) : Machine :=
  if group == 0 || group == first then
    (m.running.map (·.id)).foldl
      (fun m id => ((m.process? id).map (m.deliver signal)).getD m)
      (m.goOn p (next (.ok ())) requestTime)
  else m.goOn p (next (.error .noProcess)) requestTime

/-- A process learns of a child that has ended. -/
def performWait (m : Machine) (p : Running) (next : Waited → Process) : Machine :=
  match m.dead.find? (·.2.1 == p.id) with
  | some (id, _, ending) =>
    { m with dead := m.dead.filter (·.1 != id) }.goOn p (next (.ended id ending)) requestTime
  | none =>
    if p.interrupted then m.goOn p (next .interrupted) requestTime
    else if m.running.any (·.parent == p.id) then m.goOn p (next .running) requestTime
    else m.goOn p (next .childless) requestTime

/-- A process starts another one, which has the same descriptors. -/
def performFork (m : Machine) (p : Running) (child : Process) (next : Nat → Process) : Machine :=
  let id := m.next
  let born : Running :=
    { p with id := id, parent := p.id, code := child, wake := m.now + startTime, caught := [] }
  { m with running := m.running ++ [born], next := id + 1 }.goOn p (next id) forkTime

/-- Answers what a process asks. -/
def answer (m : Machine) (p : Running) : Machine :=
  match p.code with
  | .exit status => m.finish p (.exited status)
  | .fork child next => m.performFork p child next
  | .ask (.pass time) next => m.goOn p (next ()) time
  | .ask (.read descriptor size) next =>
    if p.interrupted then m.goOn p (next (.error .interrupted)) requestTime
    else match p.handle? descriptor with
      | none => m.goOn p (next (.error .badDescriptor)) requestTime
      | some h =>
        match m.readFrom h size with
        | .ok (m, bytes) => m.goOn p (next (.ok bytes)) (movingTime bytes.length)
        | .error e => m.goOn p (next (.error e)) requestTime
  | .ask (.write descriptor bytes) next =>
    match p.handle? descriptor with
    | none => m.goOn p (next (.error .badDescriptor)) requestTime
    | some h => m.performWrite p h descriptor bytes next
  | .ask (.openPath path mode) next =>
    match m.openPath p path mode with
    | .error e => m.goOn p (next (.error e)) requestTime
    | .ok (m, h) =>
      let descriptor := p.free 0
      m.goOn (p.withHandle descriptor h) (next (.ok descriptor)) requestTime
  | .ask (.close descriptor) next =>
    match p.handle? descriptor with
    | none => m.goOn p (next (.error .badDescriptor)) requestTime
    | some _ => (m.goOn (p.without descriptor) (next (.ok ())) requestTime).sweep
  | .ask (.goBack descriptor count) next =>
    let m := ((p.handle? descriptor).map (m.goBack · count)).getD m
    m.goOn p (next ()) requestTime
  | .ask (.duplicate descriptor target) next =>
    match p.handle? descriptor with
    | none => m.goOn p (next (.error .badDescriptor)) requestTime
    | some h => (m.goOn (p.withHandle target h) (next (.ok ())) requestTime).sweep
  | .ask (.duplicateAbove descriptor least) next =>
    match p.handle? descriptor with
    | none => m.goOn p (next (.error .badDescriptor)) requestTime
    | some h =>
      let target := p.free least
      m.goOn (p.withHandle target h) (next (.ok target)) requestTime
  | .ask .pipe next =>
    let pipe := m.next
    let source := p.free 0
    let p := p.withHandle source ⟨.pipe pipe, true, false⟩
    let sink := p.free 0
    let p := p.withHandle sink ⟨.pipe pipe, false, true⟩
    { m with pipes := (pipe, []) :: m.pipes, next := pipe + 1 }.goOn p (next (source, sink))
      requestTime
  | .ask (.status path follow) next => m.goOn p (next (m.statusOf p path follow)) requestTime
  | .ask (.names path) next =>
    m.goOn p (next (m.namesIn p path)) requestTime
  | .ask (.enter path) next =>
    match m.find p .target path with
    | .ok (full, some .directory) => m.goOn { p with working := full } (next (.ok ())) requestTime
    | .ok (_, some _) => m.goOn p (next (.error .notDirectory)) requestTime
    | .ok (_, none) => m.goOn p (next (.error .noEntry)) requestTime
    | .error e => m.goOn p (next (.error e)) requestTime
  | .ask .whereabouts next => m.goOn p (next (FileTree.pathTo p.working)) requestTime
  | .ask (.program path) next => m.goOn p (next (m.programAt p path)) requestTime
  | .ask (.wait _) next => m.performWait p next
  | .ask (.send signal target) next => m.performSend p signal target next
  | .ask (.sendGroup signal group) next => m.performSendGroup p signal group next
  | .ask (.setAction signal action) next =>
    let before := p.actionOf signal
    let p := { p with actions := (signal, action) :: p.actions.filter (·.1 != signal) }
    m.goOn p (next before) requestTime
  | .ask .caught next => m.goOn { p with caught := [] } (next p.caught) 0
  | .ask .identity next => m.goOn p (next (p.id, p.parent)) requestTime
  | .ask .become next =>
    let kept := p.actions.filter (·.2 == .ignored)
    let p := { p with
      descriptors := p.descriptors.filter (·.1 < 10), actions := kept, caught := [] }
    (m.goOn p (next ()) startTime).sweep

/-- A process that is ready goes on, or ends if a signal has ended it. -/
def perform (m : Machine) (p : Running) : Machine :=
  match p.fatal with
  | some signal => m.finish p (.killed signal)
  | none => m.answer p

end Machine

end AdapterReport
