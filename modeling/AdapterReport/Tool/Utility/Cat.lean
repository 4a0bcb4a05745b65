import AdapterReport.Tool.Utility.Options

/-!
# Cat

`cat` copies files one behind the other. It can number the lines, leave out empty ones that repeat,
and show bytes that cannot be seen.
-/

namespace AdapterReport.Cat

open Utility

/-- How the bytes are shown. -/
structure Style where
  numbersAll : Bool
  /-- Whether only lines that are not empty are numbered. -/
  numbersFull : Bool
  showsEnds : Bool
  showsTabs : Bool
  showsHidden : Bool
  squeezes : Bool
  deriving DecidableEq

/-- The bytes as they are. -/
def Style.bare : Style := ⟨false, false, false, false, false, false⟩

/-- The style with what a letter asks for. -/
def Style.adding (style : Style) (letter : Char) : Style :=
  match letter with
  | 'A' => { style with showsHidden := true, showsEnds := true, showsTabs := true }
  | 'b' => { style with numbersAll := true, numbersFull := true }
  | 'e' => { style with showsHidden := true, showsEnds := true }
  | 'E' => { style with showsEnds := true }
  | 'n' => { style with numbersAll := true }
  | 's' => { style with squeezes := true }
  | 't' => { style with showsHidden := true, showsTabs := true }
  | 'T' => { style with showsTabs := true }
  | 'v' => { style with showsHidden := true }
  | _ => style

/-- The options. -/
def options : OptionTable where
  flags := "AbeEnstTuv".toList ++ commonFlags
  valued := []
  long := [⟨"number-nonblank", 'b'⟩, ⟨"number", 'n'⟩, ⟨"squeeze-blank", 's'⟩,
    ⟨"show-nonprinting", 'v'⟩, ⟨"show-ends", 'E'⟩, ⟨"show-tabs", 'T'⟩, ⟨"show-all", 'A'⟩]
    ++ commonNames
  permutes := true

/-- What is known of the bytes before. -/
structure Progress where
  /-- What is to be written, the last byte first. -/
  written : List UInt8
  /-- The empty lines at the end, up to two. -/
  empty : Nat
  isLineStart : Bool
  line : Nat
  /-- Whether a carriage return is kept back that may stand at the end of a line. -/
  heldReturn : Bool

/-- The start of the first line. -/
def Progress.start : Progress := ⟨[], 0, true, 0, false⟩

/-- Puts bytes behind what is to be written. -/
def Progress.put (p : Progress) (bytes : List UInt8) : Progress :=
  { p with written := bytes.reverse ++ p.written }

/-- Puts the number of the next line. -/
def Progress.number (p : Progress) : Progress :=
  let digits := (Nat.toDigits 10 (p.line + 1)).map Text.ByteText.byteOf
  { p with line := p.line + 1 }.put (List.replicate (6 - digits.length) 32 ++ digits ++ [9])

/-- A byte below 128 as it is shown. -/
def shownLow (byte : UInt8) : List UInt8 :=
  if byte < 32 then [94, byte + 64] else if byte == 127 then [94, 63] else [byte]

/-- A byte as it is shown in the middle of a line. -/
def shown (style : Style) (byte : UInt8) : List UInt8 :=
  if byte == 9 then if style.showsTabs then [94, 73] else [9]
  else if !style.showsHidden then [byte]
  else if byte < 128 then shownLow byte
  else [77, 45] ++ shownLow (byte - 128)

/-- Takes the next byte. -/
def step (style : Style) (p : Progress) (byte : UInt8) : Progress :=
  if byte == 10 then
    let isEmpty := p.isLineStart
    let p := { p with empty := if isEmpty then min 2 (p.empty + 1) else 0 }
    if p.empty == 2 && style.squeezes then p
    else
      let p := if isEmpty && style.numbersAll && !style.numbersFull then p.number else p
      let p := if p.heldReturn then p.put [94, 77] else p
      { p.put (if style.showsEnds then [36, 10] else [10]) with
        isLineStart := true, heldReturn := false }
  else
    let p := if p.heldReturn then { p.put [13] with heldReturn := false } else p
    let p := if p.isLineStart && style.numbersAll then p.number else p
    let p := { p with isLineStart := false }
    if byte == 13 && style.showsEnds && !style.showsHidden then { p with heldReturn := true }
    else p.put (shown style byte)

/-- What goes on from one file to the next one. -/
structure State where
  progress : Progress
  failed : Bool
  /-- Whether nothing can be written any more. -/
  stuck : Bool
  readsInput : Bool

/-- Writes a piece of a file. -/
def copyPiece (name : String) (style : Style) (s : State) (piece : List UInt8) :
    Task (Except State State) := do
  let (bytes, next) :=
    if style == .bare then (piece, s.progress)
    else
      let p := piece.foldl (step style) { s.progress with written := [] }
      (p.written.reverse, p)
  match ← Task.write Task.output bytes with
  | .ok () => return .ok { s with progress := next }
  | .error e => do
    Task.say (name ++ ": write error: " ++ e.message ++ "\n")
    return .error { s with failed := true, stuck := true }

/-- Whether a descriptor stands for the file that is written, and there is something behind the
place where the reading goes on. To copy that would never end. -/
def feedsItself (output : FileStatus) (descriptor : Nat) : Task Bool := do
  match ← Task.statusOf descriptor with
  | .ok input =>
    return output.kind == .regular && input.place == output.place && input.position < input.size
  | .error _ => return false

/-- Copies one file. -/
def copy (name : String) (style : Style) (output : FileStatus) (s : State) (file : String) :
    Task State := do
  if s.stuck then return s
  let complain (what : String) (s : State) : Task State := do
    Task.say (name ++ ": " ++ Quoting.path file ++ ": " ++ what ++ "\n")
    return { s with failed := true }
  let isInput := file == "-"
  let opened ← if isInput then pure (.ok Task.input) else Task.openFile file
  match opened with
  | .error e => complain e.message s
  | .ok descriptor => do
    let s := { s with readsInput := s.readsInput || isInput }
    let s ←
      if ← feedsItself output descriptor then complain "input file is output file" s
      else do
        let (s, failure) ← readPieces descriptor 131072 (copyPiece name style) Task.maxPieces s
        match failure with
        | some e => complain e.message s
        | none => pure s
    if !isInput then let _ ← Task.ask (.close descriptor)
    return s

/-- Copies files one behind the other. -/
def utility : Utility := fun name arguments =>
  let given := options.read arguments
  match given.fault with
  | some e => misused name e
  | none =>
    if given.asksToTell then .exit 0
    else
      let style := given.options.foldl (fun style o => style.adding o.letter) .bare
      let files := if given.operands.isEmpty then ["-"] else given.operands
      Task.toProcess do
        let output ← match ← Task.statusOf Task.output with
          | .ok status => pure status
          | .error _ => do
            Task.say (name ++ ": standard output: " ++ SystemError.badDescriptor.message ++ "\n")
            Task.exit 1
        let s ← files.foldlM (copy name style output) ⟨.start, false, false, false⟩
        if s.progress.heldReturn && !s.stuck then let _ ← Task.write Task.output [13]
        if s.readsInput && !s.stuck then
          if let .error e ← Task.ask (.close Task.input) then do
            Task.say (name ++ ": closing standard input: " ++ e.message ++ "\n")
            return 1
        return if s.failed then 1 else 0

end AdapterReport.Cat
