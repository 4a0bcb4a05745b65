import AdapterReport.Tool.Utility.Options
import AdapterReport.Text.Numeral

/-!
# Head

`head` copies the beginning of files: so many lines or bytes, or all of them but so many.
-/

namespace AdapterReport.Head

open Utility

/-- What is counted. -/
inductive Measure where
  | lines
  | bytes
  deriving DecidableEq

/-- When the name of a file is written above its beginning. -/
inductive Naming where
  | ofMany
  | always
  | never
  deriving DecidableEq

/-- What is copied of each file. -/
structure Portion where
  measure : Measure
  count : Nat
  /-- Whether the count is of what is left out at the end. -/
  fromEnd : Bool
  naming : Naming
  /-- What a line ends with. -/
  lineEnd : UInt8
  deriving DecidableEq

/-- Ten lines. -/
def Portion.default : Portion := ⟨.lines, 10, false, .ofMany, 10⟩

/-! ## Numbers -/

/-- The power that a letter behind a number stands for. -/
def power? (c : Char) : Option Nat :=
  match c with
  | 'k' | 'K' => some 1
  | 'm' | 'M' => some 2
  | 'G' => some 3
  | 'T' => some 4
  | 'P' => some 5
  | 'E' => some 6
  | 'Z' => some 7
  | 'Y' => some 8
  | 'R' => some 9
  | 'Q' => some 10
  | _ => none

/-- What the letters behind a number multiply it by. -/
def factor? : List Char → Option Nat
  | [] => some 1
  | ['b'] => some 512
  | [c] | [c, 'i', 'B'] => (power? c).map (Nat.pow 1024)
  | [c, 'B'] | [c, 'D'] => (power? c).map (Nat.pow 1000)
  | _ => none

/-- Why a number cannot be used. -/
inductive CountError where
  | invalid
  | tooLarge
  deriving DecidableEq

/-- Reads a number; a letter alone stands for the number that it multiplies by. -/
def readCount (s : List Char) : Except CountError Nat :=
  let s := s.dropWhile Text.Numeral.isBlank
  let s := match s with
    | '+' :: c :: rest => if c.isDigit then c :: rest else '+' :: c :: rest
    | s => s
  let digits := s.takeWhile Char.isDigit
  let n := if digits.isEmpty then 1 else Text.natOfDigits digits
  match s, factor? (s.drop digits.length) with
  | [], _ | _, none => .error .invalid
  | _, some factor => if n * factor < UInt64.size then .ok (n * factor) else .error .tooLarge

/-- What is said about a number that cannot be used. -/
def complaint (name : String) (measure : Measure) (text : String) (e : CountError) : String :=
  name ++ ": invalid number of " ++ (if measure == .lines then "lines" else "bytes") ++ ": "
    ++ Quoting.plain text
    ++ (if e == .tooLarge then ": Value too large for defined data type" else "") ++ "\n"

/-! ## Options -/

/-- Why nothing is copied. -/
inductive Refusal where
  | count (measure : Measure) (text : String) (e : CountError)
  /-- A letter behind the number of an option that is only a number. -/
  | trailing (letter : Char)
  | option (fault : String)
  deriving DecidableEq

/-- The portion with another count, behind a dash if it is of what is left out. -/
def Portion.counting (p : Portion) (measure : Measure) (text : String) : Except Refusal Portion :=
  let fromEnd := text.toList.head? == some '-'
  let text := if fromEnd then String.ofList text.toList.tail else text
  match readCount text.toList with
  | .error e => .error (.count measure text e)
  | .ok n =>
    if fromEnd && measure == .bytes && UInt64.size / 2 ≤ n then
      .error (.count measure text .tooLarge)
    else .ok { p with measure := measure, count := n, fromEnd := fromEnd }

/-- The options. -/
def options : OptionTable where
  flags := "qvz0123456789".toList ++ commonFlags
  valued := ['c', 'n']
  long := [⟨"bytes", 'c'⟩, ⟨"lines", 'n'⟩, ⟨"quiet", 'q'⟩, ⟨"silent", 'q'⟩, ⟨"verbose", 'v'⟩,
    ⟨"zero-terminated", 'z'⟩] ++ commonNames
  permutes := true

/-- The portion with what an option asks for. -/
def Portion.taking (p : Portion) (o : GivenOption) : Except Refusal Portion :=
  match o.letter with
  | 'c' => p.counting .bytes o.value
  | 'n' => p.counting .lines o.value
  | 'q' => .ok { p with naming := .never }
  | 'v' => .ok { p with naming := .always }
  | 'z' => .ok { p with lineEnd := 0 }
  | c => if c.isDigit then .error (.trailing c) else .ok p

/-- Reads the letters behind the number of an option that is only a number: the portion, and the
letter that multiplies the number. -/
def shortLetters : List Char → Portion × Option Char → Except Refusal (Portion × Option Char)
  | [], found => .ok found
  | c :: rest, (p, factor) =>
    match c with
    | 'c' => shortLetters rest ({ p with measure := .bytes }, none)
    | 'b' | 'k' | 'm' => shortLetters rest ({ p with measure := .bytes }, some c)
    | 'l' => shortLetters rest ({ p with measure := .lines }, factor)
    | 'q' => shortLetters rest ({ p with naming := .never }, factor)
    | 'v' => shortLetters rest ({ p with naming := .always }, factor)
    | 'z' => shortLetters rest ({ p with lineEnd := 0 }, factor)
    | c => .error (.trailing c)

/-- Reads a first argument that is only a number and some letters behind a dash; `none` if it is
something else. -/
def short? (argument : String) : Option (Except Refusal Portion) :=
  match argument.toList with
  | '-' :: c :: rest =>
    if !c.isDigit then none
    else some do
      let digits := (c :: rest).takeWhile Char.isDigit
      let (p, factor) ← shortLetters ((c :: rest).drop digits.length) (.default, none)
      p.counting p.measure (String.ofList (digits ++ factor.toList))
  | _ => none

/-- The portion and the operands that arguments ask for, or `none` if they only ask for something to
be told. -/
def choice (arguments : List String) : Except Refusal (Option (Portion × List String)) := do
  let (start, arguments) ←
    match arguments with
    | first :: rest =>
      match short? first with
      | some p => pure (← p, rest)
      | none => pure (Portion.default, arguments)
    | [] => pure (Portion.default, [])
  let given := options.read arguments
  let p ← (given.options.takeWhile fun o => !commonFlags.contains o.letter).foldlM
    Portion.taking start
  match given.fault with
  | some e => if given.asksToTell then return none else .error (.option e)
  | none => return if given.asksToTell then none else some (p, given.operands)

/-! ## Copying -/

/-- What goes on from one file to the next one. -/
structure State where
  /-- What is to be written together with what comes next. -/
  pending : List UInt8
  isFirst : Bool
  failed : Bool
  readsInput : Bool

/-- Puts bytes behind what is to be written. -/
def State.put (name : String) (s : State) (bytes : List UInt8) : Task State := do
  match ← writeBlocks (s.pending ++ bytes) with
  | .ok pending => return { s with pending := pending }
  | .error e => do
    Task.say (name ++ ": error writing 'standard output': " ++ e.message ++ "\n")
    Task.exit 1

/-- The number of bytes in the first lines of some bytes, and how many more lines there shall be. -/
def lineEnds (lineEnd : UInt8) : Nat → List UInt8 → Nat → Nat × Nat
  | 0, _, passed => (passed, 0)
  | n + 1, [], passed => (passed, n + 1)
  | n + 1, byte :: bytes, passed =>
    lineEnds lineEnd (if byte == lineEnd then n else n + 1) bytes (passed + 1)

/-- How much is read at once. -/
def pieceSize : Nat := 8192

/-- Copies so many lines. -/
def copyLines (name : String) (p : Portion) (descriptor : Nat) (s : State) :
    Task (State × Option SystemError) := do
  if p.count == 0 then return (s, none)
  let ((s, _), e) ← readPieces descriptor pieceSize
    (fun (s, left) piece => do
      let (size, left) := lineEnds p.lineEnd left piece 0
      let s ← s.put name (piece.take size)
      if left == 0 then
        Task.ask (.goBack descriptor (piece.length - size))
        return .error (s, left)
      else return .ok (s, left))
    Task.maxPieces (s, p.count)
  return (s, e)

/-- Copies so many bytes. The first number bounds the pieces. -/
def copyBytes (name : String) (descriptor : Nat) :
    Nat → Nat → State → Task (State × Option SystemError)
  | 0, _, s => pure (s, none)
  | _, 0, s => pure (s, none)
  | n + 1, left, s => do
    match ← Task.ask (.read descriptor (min left pieceSize)) with
    | .error .interrupted => copyBytes name descriptor n left s
    | .error e => return (s, some e)
    | .ok [] => return (s, none)
    | .ok piece => copyBytes name descriptor n (left - piece.length) (← s.put name piece)

/-- The number of bytes in front of the last lines. A line without an end counts. -/
def beforeLast (p : Portion) (bytes : List UInt8) : Nat :=
  match p.measure with
  | .bytes => bytes.length - p.count
  | .lines =>
    let isOpen := bytes.getLast?.any (· != p.lineEnd)
    let lines := bytes.count p.lineEnd + (if isOpen then 1 else 0)
    (lineEnds p.lineEnd (lines - p.count) bytes 0).1

/-- Copies all but so many bytes or lines. -/
def copyAllBut (name : String) (p : Portion) (descriptor : Nat) (s : State) :
    Task (State × Option SystemError) := do
  let ((s, kept), e) ← readPieces descriptor pieceSize
    (fun (s, kept) piece => do
      let kept := kept ++ piece
      let sure := if p.measure == .bytes then kept.length - p.count else 0
      return .ok (← s.put name (kept.take sure), kept.drop sure))
    Task.maxPieces (s, ([] : List UInt8))
  if e.isSome then return (s, e)
  let size := beforeLast p kept
  let s ← s.put name (kept.take size)
  Task.ask (.goBack descriptor (kept.length - size))
  return (s, none)

/-- Copies the beginning of what a descriptor stands for. -/
def copyFrom (name : String) (p : Portion) (descriptor : Nat) (s : State) :
    Task (State × Option SystemError) :=
  match p.fromEnd, p.measure with
  | true, _ => copyAllBut name p descriptor s
  | false, .lines => copyLines name p descriptor s
  | false, .bytes => copyBytes name descriptor Task.maxPieces p.count s

/-- Copies the beginning of a file. -/
def copy (name : String) (p : Portion) (named : Bool) (s : State) (file : String) : Task State := do
  let isInput := file == "-"
  let shown := if isInput then "standard input" else file
  let opened ← if isInput then pure (.ok Task.input) else Task.openFile file
  match opened with
  | .error e => do
    complain s.pending (name ++ ": cannot open " ++ Quoting.forShell file ++ " for reading: "
      ++ e.message ++ "\n")
    return { s with pending := [], failed := true }
  | .ok descriptor => do
    let header := (if s.isFirst then "" else "\n") ++ "==> " ++ shown ++ " <==\n"
    let s := { s with readsInput := s.readsInput || isInput }
    let s ← if named then
        pure { ← s.put name (Text.ByteText.toBytes header) with isFirst := false }
      else pure s
    let (s, failure) ← copyFrom name p descriptor s
    if !isInput then let _ ← Task.ask (.close descriptor)
    match failure with
    | none => return s
    | some e => do
      complain s.pending (name ++ ": error reading " ++ Quoting.forShell shown ++ ": " ++ e.message
        ++ "\n")
      return { s with pending := [], failed := true }

/-- Copies the beginnings of files one behind the other. -/
def copyAll (name : String) (p : Portion) (files : List String) : Process :=
  let named := p.naming == .always || (p.naming == .ofMany && 1 < files.length)
  (files.foldlM (copy name p named) ⟨[], true, false, false⟩ : Task State) fun s =>
    let status : UInt8 := if s.failed then 1 else 0
    if s.readsInput then
      .ask (.close Task.input) fun
        | .ok () => finish name s.pending status
        | .error e => (Task.say (name ++ ": -: " ++ e.message ++ "\n")) fun _ =>
          finish name s.pending 1
    else finish name s.pending status

/-- Copies the beginnings of files, or complains about the arguments. -/
def utility : Utility := fun name arguments =>
  match choice arguments with
  | .ok none => .exit 0
  | .ok (some (p, files)) => copyAll name p (if files.isEmpty then ["-"] else files)
  | .error (.option fault) => misused name fault
  | .error (.trailing c) => misused name ("invalid trailing option -- " ++ c.toString)
  | .error (.count measure text e) =>
    Task.toProcess do
      Task.say (complaint name measure text e)
      return 1

end AdapterReport.Head
