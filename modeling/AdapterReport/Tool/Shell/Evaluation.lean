import AdapterReport.Tool.Shell.Builtin.Table
import AdapterReport.Tool.Shell.Command
import AdapterReport.Tool.Shell.Invocation
import AdapterReport.Tool.Shell.Redirection
import AdapterReport.Tool.Utility.Standard

/-!
# Evaluation

Runs commands. `Sh.evaluate` runs a command and gives its status; `Sh.shell` is the process of a
shell from its start to its end. The numbers bound how deep commands stand in each other and how
often they are repeated; there is one equation for every shape of a command.
-/

namespace AdapterReport.Shell

/-- Where a command stands. -/
structure Position where
  /-- Whether nothing is left to do in the process when the command has ended. -/
  isLast : Bool
  /-- Whether a failure is expected, so that it is no reason to end the shell. -/
  isTested : Bool
  deriving DecidableEq

namespace Position

/-- In the middle of other commands. -/
def inside : Position := ⟨false, false⟩

/-- At the end of all commands of a process. -/
def last : Position := ⟨true, false⟩

/-- Where it counts whether a command fails. -/
def tested : Position := ⟨false, true⟩

/-- The same, with something left to do. -/
def notLast (p : Position) : Position := { p with isLast := false }

end Position

namespace Sh

/-! ## Parts -/

/-- How long a command of the shell takes. -/
def commandTime : Time := 3

/-- The most functions that run in each other. -/
def maxDepth : Nat := 1000

/-- Sets the status of the last command. -/
def setStatus (status : Nat) : Sh Nat := do
  modify fun s => { s with status := status }
  return status

/-- Learns which signals have come since the last time. -/
def learnSignals : Sh Unit := do
  let s ← get
  if s.traps.any fun t => t.1 != Signal.exit && !t.2.isEmpty then
    let caught ← ask .caught
    modify (·.withCaught caught)

/-- Counts a turn of a loop, and says why commands are left out if they are. -/
def turn : Sh Skip := do
  let s ← get
  match s.skip with
  | .none | .returns _ => return s.skip
  | .breaks n => do
    modify fun s => { s with skip := if n ≤ 1 then .none else .breaks (n - 1) }
    return .breaks 1
  | .continues n => do
    modify fun s => { s with skip := if n ≤ 1 then .none else .continues (n - 1) }
    return if n ≤ 1 then .continues 1 else .breaks 1

/-- Whether a loop goes on. -/
def goesOn (skip : Skip) : Bool :=
  match skip with
  | .none | .continues _ => true
  | _ => false

/-- Whether no commands are left out. -/
def isOn : Sh Bool := do return (← get).skip == .none

/-- Ends commands that were left out up to the end of a function or of a text. -/
def endReturn : Sh Unit := modify fun s =>
  match s.skip with
  | .returns _ => { s with skip := .none }
  | _ => s

/-- Reads the next commands of a source. -/
def nextCommands (source : Source) : Sh (Read.Found × Source) := do
  let s ← get
  let source := { source with
    aliases := s.aliases, nextDocument := s.nextDocument, documents := [], touchedEnd := false }
  match Read.commands source with
  | .error fault => do
    modify fun s => { s with line := fault.line }
    fail ("Syntax error: " ++ fault.message)
  | .ok (found, after) => do
    modify fun s => { s with
      documents := after.documents ++ s.documents
      nextDocument := after.nextDocument
      reached := after.line }
    return (found, after)

/-- What a variable says is to be shown in front of a line. -/
def promptOf (run : Command → Sh Unit) (variableName : String) : Sh String := do
  let text := ((← get).value? variableName).getD ""
  let nested : NestedReading := ⟨pure none, pure none⟩
  let place : Place := ⟨.document, some ⟨['\x00'], false⟩, false⟩
  let plain := text.toList.all fun c => !"$\x60\\".toList.contains c
  if plain then return text
  match Read.place nested Read.maxLines place .empty (.ofText text [] 0) with
  | .error _ => return text
  | .ok (word, _) => do
    modify fun s => { s with isTracing := true }
    let result ← attempt (expandText run .document word)
    modify fun s => { s with isTracing := false }
    match result with
    | .ok expanded => return expanded
    | .error .error => return text
    | .error d => leave d

/-- Shows a command that is about to run. -/
def trace (run : Command → Sh Unit) (descriptor : Nat) (words : List String) : Sh Unit := do
  let s ← get
  if s.has "xtrace" && !s.isTracing then
    let start ← promptOf run "PS4"
    let _ ← write descriptor (start ++ " ".intercalate words ++ "\n")

/-- Assigns values in front of a command; gives the assignments as they are shown. -/
def assignInFront (run : Command → Sh Unit) (i : Invocation) (assignments : List Word) :
    Sh (List String) :=
  assignments.mapM fun word => do
    let text ← expandText run .assignment word
    if i.isLocal then makeLocal text true
    else
      let (name, value) := divided text
      let mark : Mark := if i.isExec && 1 < i.arguments.length then .exported else .none
      setVariable name value mark
    return text

/-- The status that tells why a program was not run. -/
def refusal : SystemError → Nat
  | .noEntry | .notDirectory | .nameTooLong | .tooManyLinks => 127
  | _ => 126

/-- Leaves what the shell does because a program was not run. -/
def refuse (name : String) (e : SystemError) : Sh Unit := do
  modify fun s => { s with status := refusal e }
  warn (name ++ ": " ++ commandFault e)
  leave .finished

/-- Learns of processes that have ended, where there are some that run beside the shell. -/
def gatherBeside : Sh Unit := do
  if (← get).jobs.any (!·.isDone) then gather none maxRounds

/-- Looks for a file with commands. -/
def commandFile (name : String) : Sh String := do
  if name.toList.contains '/' then return name
  let candidates := (directories (((← get).value? "PATH").getD "")).map (pathIn · name)
  let isFile (path : String) : Sh Bool := do
    match ← ask (.status (Text.ByteText.toBytes path) true) with
    | .ok status => return status.kind == .regular
    | .error _ => return false
  let found ← candidates.filterM isFile
  match found.head? with
  | some path => return path
  | none => fail (name ++ ": not found")

/-- The text of a file. -/
def fileText (path : String) : Sh String := do
  let descriptor ← openAs .read path
  let bytes ← readToEnd descriptor
  let _ ← ask (.close descriptor)
  return Text.ByteText.ofBytes (bytes.filter (· != 0))

/-! ## The start of a shell -/

/-- What a shell knows when it starts. -/
def firstSession (name : String) (environment : List (String × String)) : Session where
  name := name
  process := 0
  options := []
  vars :=
    let given : List Variable := (environment.filter fun v => isName v.1).map fun v =>
      ⟨v.1, some v.2, true, false⟩
    let own : List (String × Option String) :=
      [("IFS", some " \t\n"), ("MAIL", none), ("MAILPATH", none), ("OPTIND", some "1"),
        ("PS1", some "# "), ("PS2", some "> "), ("PS4", some "+ ")]
    let path : List (String × Option String) :=
      if given.any (·.name == "PATH") then [] else [("PATH", some standardPath)]
    (own ++ path).map (fun v => ⟨v.1, v.2, false, false⟩)
      ++ given.filter fun v => !own.any (·.1 == v.name)
  frames := []
  parameters := []
  optionPlace := (1, none)
  functions := []
  aliases := []
  traps := []
  deaf := []
  signalled := []
  lastSignal := none
  status := 0
  lastStatus := none
  beside := none
  substituted := 0
  line := 0
  reached := 1
  command := none
  skip := .none
  loops := 0
  jobs := []
  documents := []
  nextDocument := 0
  found := []
  kept := []
  unwritten := []
  isTracing := false
  depth := 0
  mask := 18
  limits := []
  directory := "/"

/-- Learns who and where the shell is. -/
def orient : Sh Unit := do
  let (process, parent) ← ask .identity
  let here ← ask .whereabouts
  let physical := Text.ByteText.ofBytes here
  let place (path : List UInt8) : Sh (Option (List EntryName)) := do
    match ← ask (.status path true) with
    | .ok status => return some status.place
    | .error _ => return none
  let directory ← match (← get).value? "PWD" with
    | none => pure physical
    | some path => do
      let isSame := (← place (Text.ByteText.toBytes path)) == (← place here)
      pure (if isSame && path.toList.head? == some '/' then path else physical)
  modify fun s => { s with process := process, directory := directory }
  setVariable "PPID" (some (toString parent)) .none
  setVariable "PWD" (some directory) .exported

/-- What a shell is to do. -/
inductive Work where
  /-- To run the commands in a text, and then those that are read if `reads` is set. -/
  | commands (text : String) (reads : Bool)
  /-- To run the commands that are read. -/
  | input
  /-- To run the commands in a file. -/
  | file (path : String)

/-- Reads the arguments of a shell. -/
def readArguments (arguments : List String) : Sh Work := do
  let (rest, hasCommands) ← setOptions true (arguments.length + 1) arguments
  let setNames : List String → Sh Unit
    | [] => pure ()
    | name :: parameters => do
      modify fun s => { s with name := name }
      setParameters parameters
  let work ← match rest, hasCommands with
    | [], true => fail "-c requires an argument"
    | [], false => do
      setOption true "stdin"
      pure Work.input
    | text :: names, true => do
      setNames names
      pure (.commands text ((← get).has "stdin"))
    | path :: parameters, false => do
      if (← get).has "stdin" then
        setParameters (path :: parameters)
        pure .input
      else
        let descriptor ← openAs .read path
        let _ ← ask (.close descriptor)
        setNames (path :: parameters)
        pure (.file path)
  if (← get).has "interactive" then setOption true "monitor"
  checkMonitor
  return work

/-! ## Texts that come bit by bit -/

/-- Where the text of commands comes from. -/
structure Feed where
  descriptor : Nat
  source : Source
  /-- The lines of the text that were not shown. -/
  unshown : List Char
  isAtEnd : Bool

/-- How much is read at once. -/
def feedSize : Nat := 8192

/-- Reads a bit more of the text. -/
def Feed.more (f : Feed) : Sh Feed := do
  match ← ask (.read f.descriptor feedSize) with
  | .ok [] | .error _ => return { f with isAtEnd := true }
  | .ok bytes =>
    let text := Text.ByteText.ofBytes (bytes.filter (· != 0))
    return { f with
      source := { f.source with rest := f.source.rest ++ Source.itemsOf text }
      unshown := f.unshown ++ text.toList }

/-- The first so many lines of a text, and what is behind them. -/
def splitLines : Nat → List Char → List Char × List Char
  | 0, s => ([], s)
  | _, [] => ([], [])
  | n + 1, s =>
    let line := s.takeWhile (· != '\n')
    let (rest, behind) := splitLines n (s.drop (line.length + 1))
    (s.take (line.length + 1) ++ rest, behind)

/-- Shows the lines up to some line if that was asked for. -/
def Feed.showLines (f : Feed) (lines : Nat) : Sh Feed := do
  let (shown, unshown) := splitLines lines f.unshown
  onlyIf ((← get).has "verbose") (say (String.ofList shown))
  return { f with unshown := unshown }

/-- Reads the next commands, and more of the text as long as that is needed. The number bounds the
readings. -/
def Feed.next : Nat → Feed → Sh (Read.Found × Feed)
  | 0, f => return (.nothing, f)
  | n + 1, f => do
    let s ← Sh.get
    let source := { f.source with
      aliases := s.aliases, nextDocument := s.nextDocument, documents := [], touchedEnd := false }
    let isComplete := match Read.commands source with
      | .ok (_, after) => !after.touchedEnd
      | .error _ => false
    if isComplete || f.isAtEnd then
      let lastLine := match Read.commands source with
        | .ok (_, after) => if after.touchedEnd then after.line + 1 else after.line
        | .error fault => fault.line + (if f.unshown.isEmpty then 0 else 1)
      let f ← f.showLines (lastLine - f.source.line)
      let (found, after) ← nextCommands f.source
      return (found, { f with source := after })
    else Feed.next n (← f.more)

/-! ## Commands -/

mutual

/-- Runs a command and gives its status. -/
def evaluate : Nat → Position → Command → Sh Nat
  | 0, _, _ => return 0
  | n + 1, p, c => do
    if (← get).has "noexec" then
      onlyIf p.isLast (leave .finished)
      return (← get).status
    handleSignals n
    let (status, counts) ← match c with
      | .simple line assignments words redirects => do
        pure (← evaluateSimple n p line assignments words redirects, true)
      | .pipeline commands inBackground => do
        pure (← evaluatePipeline n p commands inBackground, true)
      | .background line body redirects => do
        pure (← evaluateApart n .beside p line body redirects, true)
      | .subshell line body redirects => do
        pure (← evaluateApart n .waited p line body redirects, true)
      | .redirected line body redirects => do
        evaluateRedirected n p line body redirects
      | .negated body => do
        let status ← evaluate n .tested body
        let isOn ← isOn
        pure (if !isOn then status else if status == 0 then 1 else 0, false)
      | .sequence first second => do
        let status ← evaluate n p.notLast first
        let isOn ← isOn
        let status ← if isOn then evaluate n p second else pure status
        pure (status, false)
      | .both first second => do
        let status ← evaluate n .tested first
        let isOn ← isOn
        let status ← if status == 0 && isOn then evaluate n p second else pure status
        pure (status, false)
      | .either first second => do
        let status ← evaluate n .tested first
        let isOn ← isOn
        let status ← if status != 0 && isOn then evaluate n p second else pure status
        pure (status, false)
      | .branch test body rest => do
        let status ← evaluate n .tested test
        if !(← isOn) then pure (status, false)
        else if status == 0 then pure (← evaluate n p body, false)
        else
          match rest with
          | some rest => do pure (← evaluate n p rest, false)
          | none => pure (0, false)
      | .loop whileFails test body => do
        pure (← evaluateLoop n p whileFails test body, false)
      | .each line name words body => do
        modify fun s => { s with line := line }
        let values ← expandWords (apart n) words
        modify fun s => { s with loops := s.loops + 1 }
        let status ← evaluateEach n p name body values 0
        modify fun s => { s with loops := s.loops - 1 }
        pure (status, false)
      | .choose line word choices => do
        modify fun s => { s with line := line }
        let text ← expandText (apart n) .text word
        pure (← evaluateChoice n p text.toList choices, false)
      | .function _ name body => do
        modify fun s => { s with
          functions := ⟨name, body⟩ :: s.functions.filter (·.name != name) }
        pure (0, false)
    let status ← setStatus status
    handleSignals n
    let fails := counts && status != 0 && !p.isTested && (← get).has "errexit"
    onlyIf (fails || p.isLast) (leave .finished)
    return (← get).status

/-- Runs a command whose descriptors stand for something else; says also whether the status is that
of a redirection that has failed. -/
def evaluateRedirected : Nat → Position → Nat → Command → List Redirect → Sh (Nat × Bool)
  | 0, _, _, _, _ => return (0, false)
  | n + 1, p, line, body, redirects => do
    modify fun s => { s with line := line }
    let redirections ← redirects.mapM (redirection (apart n))
    withKept do
      if ← redirectSafely (apart n) redirections then
        return ((← evaluate n p.notLast body, false), false)
      else return ((2, true), false)

/-- Runs a loop. -/
def evaluateLoop : Nat → Position → Bool → Command → Command → Sh Nat
  | 0, _, _, _, _ => return 0
  | n + 1, p, whileFails, test, body => do
    modify fun s => { s with loops := s.loops + 1 }
    let status ← evaluateTurns n p whileFails test body 0
    modify fun s => { s with loops := s.loops - 1 }
    return status

/-- Runs the turns of a loop; the last number is the status of the turn before. -/
def evaluateTurns : Nat → Position → Bool → Command → Command → Nat → Sh Nat
  | 0, _, _, _, _, status => return status
  | n + 1, p, whileFails, test, body, status => do
    let tested ← evaluate n .tested test
    let skip ← turn
    match skip with
    | .none =>
      if (tested == 0) == whileFails then return status
      let status ← evaluate n p.notLast body
      let skip ← turn
      if goesOn skip then evaluateTurns n p whileFails test body status else return status
    | .returns true => return tested
    | _ => if goesOn skip then evaluateTurns n p whileFails test body status else return status

/-- Runs a command for every value of a variable. -/
def evaluateEach : Nat → Position → String → Command → List String → Nat → Sh Nat
  | 0, _, _, _, _, status => return status
  | _, _, _, _, [], status => return status
  | n + 1, p, name, body, value :: values, _ => do
    assign name value
    let status ← evaluate n p.notLast body
    if goesOn (← turn) then evaluateEach n p name body values status else return status

/-- Runs what stands behind the first pattern that fits a text. -/
def evaluateChoice : Nat → Position → List Char → List Choice → Sh Nat
  | 0, _, _, _ => return 0
  | _, _, _, [] => return 0
  | n + 1, p, text, .mk patterns body :: choices => do
    if !(← isOn) then return 0
    if ← fitsAny n text patterns then
      match body with
      | some c => evaluate n p c
      | none => return 0
    else evaluateChoice n p text choices

/-- Whether one of some patterns fits a text. -/
def fitsAny : Nat → List Char → List Word → Sh Bool
  | 0, _, _ => return false
  | _, _, [] => return false
  | n + 1, text, word :: words => do
    let pattern ← expandPattern (apart n) word
    if pattern.fits text then return true else fitsAny n text words

/-- Runs commands in a process of their own. -/
def evaluateApart : Nat → StartKind → Position → Nat → Command → List Redirect → Sh Nat
  | 0, _, _, _, _, _ => return 0
  | n + 1, kind, p, line, body, redirects => do
    modify fun s => { s with line := line }
    let redirections ← redirects.mapM (redirection (apart n))
    let inside (p : Position) : Sh Unit := do
      redirections.forM (redirect (apart n))
      let _ ← evaluate n p body
      leave .finished
    if kind == .waited && p.isLast && !(← get).hasTraps then
      inside p
      return 0
    let job ← newJob
    start kind job (asProcess n (inside ⟨true, p.isTested && kind == .waited⟩))
    if kind == .waited then waitFor job else return 0

/-- Runs commands side by side, each one reading what the one before writes. -/
def evaluatePipeline : Nat → Position → List Command → Bool → Sh Nat
  | 0, _, _, _ => return 0
  | n + 1, p, commands, inBackground => do
    let kind : StartKind := if inBackground then .beside else .waited
    let job ← newJob
    startPiped n kind { p with isLast := true } job none commands
    if inBackground then return 0 else waitFor job

/-- Starts the processes of a pipeline. The first one reads from a descriptor if there is one. -/
def startPiped : Nat → StartKind → Position → Nat → Option Nat → List Command → Sh Unit
  | 0, _, _, _, _, _ => return
  | _, _, _, _, _, [] => return
  | n + 1, kind, p, job, source, c :: commands => do
    let pipe ← if commands.isEmpty then pure none else do pure (some (← ask .pipe))
    start kind job <| asProcess n do
      match pipe with
      | some (next, _) => do
        let _ ← ask (.close next)
      | none => pure ()
      match source with
      | some descriptor => do
        if descriptor != Task.input then
          let _ ← ask (.duplicate descriptor Task.input)
          let _ ← ask (.close descriptor)
      | none => pure ()
      match pipe with
      | some (_, sink) => do
        if sink != Task.output then
          let _ ← ask (.duplicate sink Task.output)
          let _ ← ask (.close sink)
      | none => pure ()
      let _ ← evaluate n p c
      leave .finished
    match source with
    | some descriptor => do
      let _ ← ask (.close descriptor)
    | none => pure ()
    match pipe with
    | some (next, sink) => do
      let _ ← ask (.close sink)
      startPiped n kind p job (some next) commands
    | none => return

/-- Runs a command in a process, which ends then. -/
def apart : Nat → Command → Sh Unit
  | 0, _ => return
  | n + 1, c => asProcess n do
    let _ ← evaluate n .last c

/-- Does something in a process, which ends then. -/
def asProcess : Nat → Sh Unit → Sh Unit
  | 0, _ => return
  | n + 1, part => do finish n (← attempt part)

/-- Ends a process after what it did: runs what shall be done at the end of it. -/
def finish : Nat → Except Departure Unit → Sh Unit
  | 0, _ => return
  | n + 1, result => do
    match result with
    | .ok () => pure ()
    | .error d => do
      modify fun s => { s with
        status := if d == .exit || s.skip == .returns false then s.lastStatus.getD s.status
          else s.status
        lastStatus := none
        skip := .none
        loops := 0
        isTracing := false }
      (← get).kept.forM fun _ => release putBack
    let s ← get
    match s.traps.lookup Signal.exit with
    | none => pure ()
    | some action => do
      modify fun s => { s with
        traps := s.traps.filter (·.1 != Signal.exit)
        skip := .none
        lastStatus := some s.status }
      let result ← attempt do
        let _ ← evaluateText n .inside (.ofText action [] 0) 0
      let keeps := match result with
        | .ok () => true
        | .error d => d == Departure.exit
      onlyIf keeps (modify fun s => { s with status := s.lastStatus.getD s.status })
      (← get).kept.forM fun _ => release putBack
    let _ ← flush
    lift (Task.exit (UInt8.ofNat (← get).status))

/-- Does what shall be done about the signals that have come. -/
def handleSignals : Nat → Sh Unit
  | 0 => return
  | n + 1 => do
    learnSignals
    let s ← get
    if s.lastSignal.isNone then return
    let status := s.lastStatus.getD s.status
    modify fun s => { s with lastStatus := some status, lastSignal := none }
    handleEach n status ((List.range Signal.last).map (· + 1))
    modify fun after => { after with lastStatus := s.lastStatus, reached := s.reached }

/-- Does what shall be done about some signals, unless commands are left out. -/
def handleEach : Nat → Nat → List Nat → Sh Unit
  | 0, _, _ => return
  | _, _, [] => return
  | n + 1, status, signal :: signals => do
    let s ← get
    if !s.signalled.contains signal then handleEach n status signals
    else if s.skip != .none then modify fun s => { s with lastSignal := some signal }
    else do
      modify fun s => { s with signalled := s.signalled.filter (· != signal) }
      match s.traps.lookup signal with
      | none => handleEach n status signals
      | some action => do
        let _ ← evaluateText n .inside (.ofText action [] 0) 0
        modify fun s => if s.skip == .returns true then s else { s with status := status }
        handleEach n status signals

/-- Runs the commands in a source; the last number is the status of those before. -/
def evaluateText : Nat → Position → Source → Nat → Sh Nat
  | 0, _, _, status => return status
  | n + 1, p, source, status => do
    let (found, source) ← nextCommands source
    match found with
    | .nothing => return status
    | .line c => do
      let here := if Read.isOver source then p else p.notLast
      let status ← evaluateLine n here c status
      if ← isOn then evaluateText n p source status else return status

/-- Runs the commands of a line; gives the status of those before if there are none. -/
def evaluateLine : Nat → Position → Option Command → Nat → Sh Nat
  | 0, _, _, status => return status
  | n + 1, p, c, status => do
    match c with
    | some c => evaluate n p c
    | none => do
      handleSignals n
      onlyIf p.isLast (leave .finished)
      return status

/-- Runs the commands of a text that comes bit by bit. Somebody who types them is asked for each
line. -/
def evaluateFeed : Nat → Feed → Nat → Sh Nat
  | 0, _, status => return status
  | n + 1, feed, status => do
    let isTyped := (← get).has "interactive"
    onlyIf isTyped do say (← promptOf (apart n) "PS1")
    let first := feed.source.line
    let (found, feed) ← feed.next maxRounds
    match found with
    | .nothing => do
      onlyIf isTyped (say "\n")
      return status
    | .line c => do
      onlyIf isTyped do
        let further ← promptOf (apart n) "PS2"
        say (String.join (List.replicate (feed.source.line - first - 1) further))
      let status ← evaluateLine n .inside c status
      if ← isOn then evaluateFeed n feed status
      else
        endReturn
        return status

/-- Runs a simple command. -/
def evaluateSimple : Nat → Position → Nat → List Word → List Word → List Redirect → Sh Nat
  | 0, _, _, _, _, _ => return 0
  | n + 1, p, line, assignments, words, redirects => do
    modify fun s => { s with line := line, substituted := 0 }
    let i ← invocation (apart n) words
    withFrame i.isLocal do
      let redirections ← redirects.mapM (redirection (apart n))
      if redirections.isEmpty then evaluateInvocation n p i assignments Task.errors
      else withKept do
        if ← redirectSafely (apart n) redirections then
          let errors ← formerErrors
          return (← evaluateInvocation n p i assignments errors, i.isExec)
        else
          onlyIf (i.isSpecial == some true) (leave .error)
          return (2, i.isExec)

/-- Runs a simple command whose words were expanded. -/
def evaluateInvocation : Nat → Position → Invocation → List Word → Nat → Sh Nat
  | 0, _, _, _, _ => return 0
  | n + 1, p, i, assignments, errors => do
    let shown ← assignInFront (apart n) i assignments
    trace (apart n) errors (shown ++ i.fields)
    match i.arguments with
    | [] => do
      let _ ← ask (.pass commandTime)
      gatherBeside
      return (← get).substituted
    | name :: arguments =>
      match i.builtin with
      | some b => evaluateBuiltin n p (i.isSpecial == some true) b.name name arguments
      | none => do
        match ← meaning i.functions i.standard name with
        | .unknown e => do
          warn (name ++ ": " ++ commandFault e)
          return 127
        | .builtin b => evaluateBuiltin n p false b.name name arguments
        | .function f => evaluateFunction n p f arguments
        | .program path => do
          if p.isLast && !(← get).hasTraps then
            become n path name arguments
            return 0
          else
            let job ← newJob
            let process ← fork (toProcess (become n path name arguments))
            addProcess job process
            waitFor job

/-- Runs a command of the shell. -/
def evaluateBuiltin : Nat → Position → Bool → String → String → List String → Sh Nat
  | 0, _, _, _, _, _ => return 0
  | n + 1, p, isSpecial, builtin, name, arguments => do
    let before ← get
    modify fun s => { s with command := some name }
    let _ ← ask (.pass commandTime)
    let result ← attempt <| match builtin with
      | "eval" =>
        if arguments.isEmpty then pure 0
        else evaluateText n p.notLast (.ofText (" ".intercalate arguments) [] 0) 0
      | "." => evaluateFile n arguments
      | "exec" => evaluateExec n arguments
      | _ => ((builtins.lookup builtin).getD fun _ _ => pure 0) name arguments
    let isWritten ← flush
    match result with
    | .ok status => do
      onlyIf (!isWritten) (warn (name ++ ": I/O error"))
      let _ ← setStatus (if isWritten then status else status ||| 1)
    | .error _ => pure ()
    modify fun s => { s with command := before.command, reached := before.reached }
    match result with
    | .ok _ => pure ()
    | .error d => onlyIf (d != .error || isSpecial) (leave d)
    gatherBeside
    return (← get).status

/-- Runs the commands in a file. -/
def evaluateFile : Nat → List String → Sh Nat
  | 0, _ => return 0
  | n + 1, arguments => do
    let (_, operands) ← letters "" "" arguments
    match operands with
    | [] => return 0
    | name :: _ => do
      let path ← commandFile name
      let text ← fileText path
      modify fun s => { s with command := some path }
      let status ← evaluateText n .inside (.ofText text [] 0) 0
      endReturn
      return status

/-- Lets the process become a program, if there is one to become. -/
def evaluateExec : Nat → List String → Sh Nat
  | 0, _ => return 0
  | n + 1, arguments => do
    match arguments with
    | [] => return 0
    | name :: rest => do
      if name.toList.contains '/' then become n name name rest
      else
        match ← search name .noEntry (directories (((← get).value? "PATH").getD "")) with
        | .ok path => become n path name rest
        | .error e => refuse name e
      return 0

/-- Runs a function. -/
def evaluateFunction : Nat → Position → ShellFunction → List String → Sh Nat
  | 0, _, _, _ => return 0
  | n + 1, p, f, arguments => do
    modify fun s => { s with depth := s.depth + 1 }
    let before ← get
    if maxDepth < before.depth then
      fail ("Maximum function recursion depth (" ++ toString maxDepth ++ ") reached")
    modify fun s => { s with parameters := arguments, optionPlace := (1, none), loops := 0 }
    let result ← attempt (evaluate n p.notLast f.body)
    modify fun s => { s with
      parameters := before.parameters
      optionPlace := before.optionPlace
      loops := before.loops
      depth := s.depth - 1 }
    endReturn
    match result with
    | .ok _ => pure ()
    | .error d => leave d
    gatherBeside
    return (← get).status

/-- Lets the process become a program. -/
def become : Nat → String → String → List String → Sh Unit
  | 0, _, _, _ => return
  | n + 1, path, name, arguments => do
    match ← ask (.program (Text.ByteText.toBytes path)) with
    | .error e => refuse name e
    | .ok program => do
      let environment := (← get).environment
      let _ ← ask .become
      match Utility.named? program with
      | some utility => lift fun _ => utility name arguments
      | none => lift fun _ => shell n name arguments environment

/-- The process of a shell. -/
def shell : Nat → String → List String → List (String × String) → Process
  | 0, _, _, _ => .exit 0
  | n + 1, name, arguments, environment =>
    toProcess
      (asProcess n do
        orient
        match ← readArguments arguments with
        | .commands text reads => do
          let p : Position := if reads then .inside else .last
          let _ ← evaluateText n p (.ofText text [] 0) 0
          onlyIf reads (evaluateInput n Task.input)
        | .input => evaluateInput n Task.input
        | .file path => do
          let descriptor ← openAs .read path
          let copy ← ask (.duplicateAbove descriptor 10)
          let _ ← ask (.close descriptor)
          evaluateInput n (copy.toOption.getD Task.input))
      (firstSession name environment)

/-- Runs the commands that are read from a descriptor. If somebody types them, what was read is
forgotten with an error, and the next line is read. -/
def evaluateInput : Nat → Nat → Sh Unit
  | 0, _ => return
  | n + 1, descriptor => do
    match ← attempt (evaluateFeed n ⟨descriptor, .ofText "" [] 0, [], false⟩ 0) with
    | .ok _ => return
    | .error d => do
      onlyIf (d != .error || !(← get).has "interactive") (leave d)
      (← get).kept.forM fun _ => release putBack
      modify fun s => { s with skip := .none, loops := 0, depth := 0, lastStatus := none }
      evaluateInput n descriptor

end

end Sh

/-- The process that a shell is under a name and with these arguments. -/
def process (environment : List (String × String)) : Utility := fun name arguments =>
  Sh.shell Sh.maxRounds name arguments environment

end AdapterReport.Shell
