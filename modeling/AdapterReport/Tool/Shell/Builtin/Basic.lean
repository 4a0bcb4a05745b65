import AdapterReport.Tool.Shell.Session

/-!
# Commands of the shell

A command of the shell is a part of what the shell does; it gives a status. What it writes is kept
back and written at its end. Here is what many of them need: options, quoted texts, and the order in
which tables are shown.
-/

namespace AdapterReport.Shell

/-- A command of the shell: what it does under its name with some arguments. -/
abbrev Builtin := String → List String → Sh Nat

namespace Sh

/-- Keeps back what is to be written at the end of the command. -/
def put (text : String) : Sh Unit := modify fun s => { s with unwritten := text :: s.unwritten }

/-- Writes what was kept back, and says whether that worked. -/
def flush : Sh Bool := do
  let text := String.join (← get).unwritten.reverse
  modify fun s => { s with unwritten := [] }
  return (← write Task.output text).isOk

/-! ## Options -/

/-- An option that was given. -/
structure LetterOption where
  letter : Char
  value : String
  deriving DecidableEq

/-- Reads the letters of one argument. A letter in `valued` takes what follows as its value. -/
def lettersOf (flags valued : String) :
    List Char → List String → Sh (List LetterOption × List String)
  | [], rest => return ([], rest)
  | c :: more, rest => do
    if flags.toList.contains c then
      let (given, rest) ← lettersOf flags valued more rest
      return (⟨c, ""⟩ :: given, rest)
    else if valued.toList.contains c then
      match more, rest with
      | [], [] => fail ("No arg for -" ++ c.toString ++ " option")
      | [], value :: rest => return ([⟨c, value⟩], rest)
      | _, _ => return ([⟨c, String.ofList more⟩], rest)
    else fail ("Illegal option -" ++ c.toString)

/-- Reads options up to the first argument that is none. The number bounds the arguments. -/
def readLetters (flags valued : String) :
    Nat → List String → Sh (List LetterOption × List String)
  | 0, arguments => return ([], arguments)
  | n + 1, arguments => do
    match arguments with
    | [] => return ([], [])
    | argument :: rest =>
      match argument.toList with
      | ['-', '-'] => return ([], rest)
      | '-' :: c :: more => do
        let (given, rest) ← lettersOf flags valued (c :: more) rest
        let (others, rest) ← readLetters flags valued n rest
        return (given ++ others, rest)
      | _ => return ([], argument :: rest)

/-- The options given and the arguments behind them. -/
def letters (flags valued : String) (arguments : List String) :
    Sh (List LetterOption × List String) :=
  readLetters flags valued (arguments.length + 1) arguments

/-! ## Texts -/

/-- Reads the pieces between single quotes, each of which stands in double quotes. The number bounds
the pieces. -/
def quotedPieces : Nat → List Char → List Char
  | 0, _ => []
  | n + 1, s =>
    let plain := s.takeWhile (· != '\x27')
    let rest := s.drop plain.length
    let quotes := rest.takeWhile (· == '\x27')
    let behind := rest.drop quotes.length
    let first := '\x27' :: plain ++ ['\x27']
    if rest.isEmpty then first
    else
      let second := '"' :: quotes ++ ['"']
      first ++ second ++ (if behind.isEmpty then [] else quotedPieces n behind)

/-- A text in quotes, as a shell can read it. -/
def quotedText (s : String) : String := String.ofList (quotedPieces (s.length + 1) s.toList)

/-- The place of a name in a table of so many rows, in whose order the entries are shown. -/
def row (rows : Nat) (name : String) : Nat :=
  let first := (name.toList.head?.map Char.toNat).getD 0
  name.toList.foldl (fun sum c => sum + c.toNat) (16 * first) % 32768 % rows

/-- Entries in the order of a table of so many rows; in a row the oldest ones come first. -/
def inRows {α : Type} (rows : Nat) (entries : List (String × α)) : List (String × α) :=
  entries.mergeSort fun a b => decide (row rows a.1 ≤ row rows b.1)

end Sh

end AdapterReport.Shell
