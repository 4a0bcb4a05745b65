import AdapterReport.Tool.Shell.Expansion

/-!
# Redirection

Lets descriptors stand for something else while a command runs. What they stood for is kept under
descriptors from ten on and put back afterwards.
-/

namespace AdapterReport.Shell

/-- What a descriptor shall stand for. -/
inductive Target where
  | file (opening : Opening) (path : String)
  | copy (source : Nat)
  | nothing
  | document (number : Nat)
  deriving DecidableEq

/-- A redirect whose word has been expanded. -/
structure Redirection where
  descriptor : Nat
  target : Target
  deriving DecidableEq

namespace Sh

/-- Leaves what the shell does because a word names no descriptor. -/
def failToCopy : Sh Redirection := do
  modify fun s => { s with line := s.reached }
  fail "Syntax error: Bad fd number"

/-- The redirection that a redirect asks for. -/
def redirection (run : Command → Sh Unit) : Redirect → Sh Redirection
  | .file descriptor opening path => do
    return ⟨descriptor, .file opening (← expandText run .text path)⟩
  | .copy descriptor source => return ⟨descriptor, .copy source⟩
  | .close descriptor => return ⟨descriptor, .nothing⟩
  | .document descriptor number => return ⟨descriptor, .document number⟩
  | .copyOf descriptor source => do
    match (← expandText run .text source).toList with
    | ['-'] => return ⟨descriptor, .nothing⟩
    | [d] =>
      if d.isDigit then return ⟨descriptor, .copy (d.toNat - '0'.toNat)⟩
      else failToCopy
    | _ => failToCopy

/-! ## Files -/

/-- Leaves what the shell does because a path cannot be opened. -/
def failToOpen (path : String) (e : SystemError) : Sh Nat :=
  let reason := if e == .noEntry || e == .notDirectory then "No such file" else e.message
  fail ("cannot open " ++ path ++ ": " ++ reason)

/-- Leaves what the shell does because a file cannot be made. -/
def failToCreate (path : String) (e : SystemError) : Sh Nat :=
  let reason :=
    if e == .noEntry || e == .notDirectory then "Directory nonexistent" else e.message
  fail ("cannot create " ++ path ++ ": " ++ reason)

/-- Opens a path. -/
def openAs (mode : OpenMode) (path : String) : Sh Nat := do
  match ← ask (.openPath (Text.ByteText.toBytes path) mode) with
  | .ok descriptor => return descriptor
  | .error e => if mode == .read then failToOpen path e else failToCreate path e

/-- Opens a path to write; what is there may not be lost. -/
def openFresh (path : String) : Sh Nat := do
  match ← ask (.status (Text.ByteText.toBytes path) true) with
  | .error _ => openAs .fresh path
  | .ok status => if status.kind == .regular then failToCreate path .exists else openAs .write path

/-! ## Documents -/

/-- The text of a document. -/
def documentText (run : Command → Sh Unit) (number : Nat) : Sh String := do
  match (← get).documents.lookup number with
  | some (.plain text) => return text
  | some (.expanded word) => expandText run .document word
  | none => return ""

/-- Writes a text to a pipe and ends. -/
def writer (source sink : Nat) (text : String) : Process :=
  Task.toProcess do
    let _ ← Task.ask (.close source)
    for signal in [1, Signal.interrupt, Signal.quit, 20] do
      let _ ← Task.ask (.setAction signal .ignored)
    let _ ← Task.ask (.setAction Signal.pipe .default)
    let _ ← Task.write sink (Text.ByteText.toBytes text)
    return 0

/-- The greatest number of bytes that are written to a pipe before anybody reads. -/
def maxUnread : Nat := 4096

/-- Gives a descriptor from which a text can be read. A long text is written by a process of its
own. -/
def openText (text : String) : Sh Nat := do
  let (source, sink) ← ask .pipe
  if text.length ≤ maxUnread then
    let _ ← write sink text
  else
    let _ ← fork fun _ => writer source sink text
  let _ ← ask (.close sink)
  return source

/-! ## Doing and undoing -/

/-- Keeps what a descriptor stands for, unless this was done before; then it is free. -/
def keep (descriptor : Nat) : Sh Unit := do
  match (← get).kept with
  | [] => return
  | frame :: rest => do
    if frame.any (·.descriptor == descriptor) then return
    let copy ← ask (.duplicateAbove descriptor 10)
    if copy.isOk then
      let _ ← ask (.close descriptor)
    modify fun s => { s with kept := (⟨descriptor, copy.toOption⟩ :: frame) :: rest }

/-- Keeps that a descriptor stood for nothing, unless something was kept before. -/
def keepNothing (descriptor : Nat) : Sh Unit := modify fun s =>
  match s.kept with
  | frame :: rest =>
    if frame.any (·.descriptor == descriptor) then s
    else { s with kept := (⟨descriptor, none⟩ :: frame) :: rest }
  | [] => s

/-- Lets a descriptor stand for what a new one stands for, which is closed. -/
def move (opened descriptor : Nat) : Sh Unit := do
  if opened == descriptor then keepNothing descriptor
  else do
    keep descriptor
    let _ ← ask (.duplicate opened descriptor)
    let _ ← ask (.close opened)

/-- Does a redirection. -/
def redirect (run : Command → Sh Unit) (r : Redirection) : Sh Unit := do
  match r.target with
  | .file opening path => do
    let opened ← match opening with
      | .read => openAs .read path
      | .append => openAs .append path
      | .both => openAs .both path
      | .overwrite => openAs .write path
      | .write => if (← get).has "noclobber" then openFresh path else openAs .write path
    move opened r.descriptor
  | .document number => do
    let opened ← openText (← documentText run number)
    move opened r.descriptor
  | .nothing => do
    keep r.descriptor
    let _ ← ask (.close r.descriptor)
  | .copy source => do
    if source == r.descriptor then return
    keep r.descriptor
    match ← ask (.duplicate source r.descriptor) with
    | .ok () => return
    | .error e => fail (toString source ++ ": " ++ e.message)

/-- Does redirections and says whether all of them could be done. -/
def redirectSafely (run : Command → Sh Unit) (redirections : List Redirection) : Sh Bool := do
  match ← attempt (redirections.forM (redirect run)) with
  | .ok () => return true
  | .error .error => return false
  | .error d => leave d

/-- Puts one descriptor back. -/
def putBack (k : KeptDescriptor) : Sh Unit := do
  match k.copy with
  | none => do
    let _ ← ask (.close k.descriptor)
  | some copy => do
    let _ ← ask (.duplicate copy k.descriptor)
    let _ ← ask (.close copy)

/-- Forgets what one descriptor stood for. -/
def forgetKept (k : KeptDescriptor) : Sh Unit := do
  match k.copy with
  | none => return
  | some copy => do
    let _ ← ask (.close copy)

/-- Takes the descriptors that were kept last, and does something with each of them. -/
def release (each : KeptDescriptor → Sh Unit) : Sh Unit := do
  match (← get).kept with
  | [] => return
  | frame :: rest => do
    modify fun s => { s with kept := rest }
    frame.forM each

/-- Does something for which descriptors may be kept, and puts them back in the end. Where it is
left this is done as well; where it asks for it, nothing is put back. -/
def withKept {α : Type} (part : Sh (α × Bool)) : Sh α := do
  modify fun s => { s with kept := [] :: s.kept }
  match ← attempt part with
  | .ok (a, isLasting) => do
    release (if isLasting then forgetKept else putBack)
    return a
  | .error d => do
    release putBack
    leave d

/-- The descriptor that stands for what the descriptor for errors stood for before. -/
def formerErrors : Sh Nat := do
  let frame := (← get).kept.head?.getD []
  return ((frame.find? (·.descriptor == Task.errors)).bind (·.copy)).getD Task.errors

end Sh

end AdapterReport.Shell
