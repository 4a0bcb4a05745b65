import AdapterReport.Tool.Shell.Builtin.Basic
import AdapterReport.Tool.Shell.Fields

/-!
# Commands about variables

The commands of the shell that show and change variables, parameters, options, functions and
aliases.
-/

namespace AdapterReport.Shell.Sh

/-! ## Showing -/

/-- Shows variables in the order of their names. -/
def showVariables (start : String) (shown : List Variable) : Sh Unit := do
  let start := if start.isEmpty then "" else start ++ " "
  (shown.mergeSort fun a b => decide (a.name ≤ b.name)).forM fun v =>
    put (start ++ v.name ++ ((v.value.map fun s => "=" ++ quotedText s).getD "") ++ "\n")

/-- The name and the value of an argument. -/
def divided (argument : String) : String × Option String :=
  let name := argument.toList.takeWhile (· != '=')
  (String.ofList name,
    if argument.toList.contains '=' then
      some (String.ofList (argument.toList.drop (name.length + 1)))
    else none)

/-- Marks variables, which may get a value, or shows those that have the mark. -/
def markVariables (mark : Mark) : Builtin := fun name arguments => do
  let (given, names) ← letters "p" "" arguments
  let s ← get
  let hasMark (v : Variable) : Bool :=
    if mark == .readOnly then v.isReadOnly else v.isExported
  if !given.isEmpty || names.isEmpty then
    showVariables name (s.vars.filter hasMark)
    return 0
  names.forM fun argument => do
    match divided argument with
    | (name, some value) => setVariable name (some value) mark
    | (name, none) =>
      match (← get).stored? name with
      | some v =>
        let marked :=
          if mark == .readOnly then { v with isReadOnly := true }
          else { v with isExported := true }
        modify (·.withVariable marked)
      | none => setVariable name none mark
  return 0

/-- Takes variables or functions away. -/
def unsetNames : Builtin := fun _ arguments => do
  let (given, names) ← letters "vf" "" arguments
  if (given.getLast?.map (·.letter)) == some 'f' then
    modify fun s => { s with functions := s.functions.filter fun f => !names.contains f.name }
  else names.forM unset
  return 0

/-- Makes variables local to a function. -/
def localNames : Builtin := fun _ arguments => do
  if (← get).frames.isEmpty then fail "not in a function"
  arguments.forM fun argument => makeLocal argument false
  return 0

/-! ## Options and parameters -/

/-- Sets an option, or takes it back. -/
def setOption (value : Bool) (option : String) : Sh Unit := modify fun s =>
  let others := s.options.filter (· != option)
  let others :=
    if value && option == "vi" then others.filter (· != "emacs")
    else if value && option == "emacs" then others.filter (· != "vi")
    else others
  { s with options := if value then option :: others else others }

/-- Sets the option of a letter, or takes it back. -/
def setLetter (value : Bool) (letter : Char) : Sh Unit := do
  match Session.optionTable.find? (·.2 == some letter) with
  | some (option, _) => setOption value option
  | none => fail ("Illegal option -" ++ letter.toString)

/-- Sets an option of this name, or takes it back; shows all options if there is no name. At the
start of a shell each of them counts as set until something is said about it. -/
def setNamed (value atStart : Bool) : Option String → Sh Unit
  | some option =>
    if Session.optionTable.any (·.1 == option) then setOption value option
    else fail ("Illegal option -o " ++ option)
  | none => do
    let s ← get
    if value then put "Current option settings\n"
    Session.optionTable.forM fun (option, _) =>
      if value then
        put (option ++ String.ofList (List.replicate (16 - option.length) ' ')
          ++ (if atStart || s.has option then "on" else "off") ++ "\n")
      else
        put ("set " ++ (if atStart || s.has option then "-o " else "+o ") ++ option ++ "\n")

/-- Sets the options of the letters in an argument; gives how many of the next arguments belong to
them, and whether one of the letters was `c`, which only counts at the start of a shell. -/
def setLetters (value atStart : Bool) :
    List Char → List String → Sh (List String × Bool)
  | [], rest => return (rest, false)
  | c :: more, rest => do
    if c == 'c' && atStart then
      let (rest, _) ← setLetters value atStart more rest
      return (rest, true)
    else if c == 'l' && atStart then setLetters value atStart more rest
    else if c == 'o' then
      setNamed value atStart rest.head?
      setLetters value atStart more rest.tail
    else
      setLetter value c
      setLetters value atStart more rest

/-- Gives the shell other positional parameters. -/
def setParameters (parameters : List String) : Sh Unit :=
  modify fun s => { s with parameters := parameters, optionPlace := (1, none) }

/-- Sets the options of arguments; gives what is behind them, and whether one of the letters was
`c`. The number bounds the arguments. -/
def setOptions (atStart : Bool) : Nat → List String → Sh (List String × Bool)
  | 0, arguments => return (arguments, false)
  | n + 1, arguments => do
    match arguments with
    | [] => return ([], false)
    | argument :: rest =>
      match argument.toList with
      | ['-'] => do
        if !atStart then modify fun s =>
          { s with options := s.options.filter fun o => o != "xtrace" && o != "verbose" }
        return (rest, false)
      | ['-', '-'] => do
        if !atStart && rest.isEmpty then setParameters []
        return (rest, false)
      | sign :: more => do
        if sign != '-' && sign != '+' then return (argument :: rest, false)
        let (rest, hasCommands) ← setLetters (sign == '-') atStart more rest
        let (rest, others) ← setOptions atStart n rest
        return (rest, hasCommands || others)
      | [] => return (argument :: rest, false)

/-- Says that there are no jobs that could be controlled if this was asked for. -/
def checkMonitor : Sh Unit := do
  if (← get).has "monitor" then
    warn "can't access tty; job control turned off"
    setOption false "monitor"

/-- Sets options and parameters, or shows all variables. -/
def set : Builtin := fun _ arguments => do
  if arguments.isEmpty then
    showVariables "" ((← get).vars.filter (·.value.isSome))
    return 0
  let (rest, _) ← setOptions false (arguments.length + 1) arguments
  checkMonitor
  if !rest.isEmpty then setParameters rest
  return 0

/-- Leaves out the first parameters. -/
def shift : Builtin := fun _ arguments => do
  let n ← match arguments with
    | [] => pure 1
    | first :: _ => number first
  let s ← get
  if s.parameters.length < n then fail "can't shift that many"
  setParameters (s.parameters.drop n)
  return 0

/-! ## Reading options -/

/-- What `getopts` finds. -/
structure FoundOption where
  letter : Char
  /-- What becomes of the variable for the value: nothing, no value, or a value. -/
  value : Option (Option String)
  /-- The number of the next argument, and the place of the next letter in the one before. -/
  place : Nat × Option Nat
  isAtEnd : Bool
  complaint : Option String

/-- Whether an option takes a value by a table, in which a colon stands behind those that do; `none`
if it is not in it. -/
def takesValue? (c : Char) : List Char → Option Bool
  | [] => none
  | [d] => if d == c then some false else none
  | d :: ':' :: rest => if d == c then some true else takesValue? c rest
  | d :: e :: rest => if d == c then some false else takesValue? c (e :: rest)

/-- Finds the next option in arguments. -/
def nextOption (table : String) (arguments : List String) (place : Nat × Option Nat) :
    FoundOption :=
  let isSilent := table.toList.head? == some ':'
  let (index, offset) := place
  let begun : List Char :=
    match offset with
    | some k => if 1 < index then ((arguments[index - 2]?.getD "").toList.drop k) else []
    | none => []
  let atEnd (index : Nat) : FoundOption := ⟨'?', none, (index, none), true, none⟩
  let found (c : Char) (more : List Char) (index : Nat) : FoundOption :=
    let word := arguments[index - 2]?.getD ""
    let place : Nat × Option Nat := (index, some (word.length - more.length))
    match takesValue? c table.toList with
    | none =>
      if isSilent then ⟨'?', some (some c.toString), place, false, none⟩
      else ⟨'?', some none, place, false, some ("Illegal option -" ++ c.toString)⟩
    | some false => ⟨c, some (some ""), place, false, none⟩
    | some true =>
      match more, arguments[index - 1]? with
      | [], none =>
        if isSilent then ⟨':', some (some c.toString), place, false, none⟩
        else ⟨'?', some none, place, false, some ("No arg for -" ++ c.toString ++ " option")⟩
      | [], some value => ⟨c, some (some value), (index + 1, none), false, none⟩
      | _, _ => ⟨c, some (some (String.ofList more)), (index, none), false, none⟩
  match begun with
  | c :: more => found c more index
  | [] =>
    match (arguments[index - 1]?).map String.toList with
    | some ['-', '-'] => atEnd (index + 1)
    | some ('-' :: c :: more) => found c more (index + 1)
    | _ => atEnd index

/-- Finds the next option in arguments, or in the parameters. -/
def getopts : Builtin := fun _ arguments => do
  match arguments with
  | table :: name :: rest => do
    let s ← get
    let words := if rest.isEmpty then s.parameters else rest
    let place := if words.length + 1 < s.optionPlace.1 then (1, none) else s.optionPlace
    let found := nextOption table words place
    match found.complaint with
    | some text => say (text ++ "\n")
    | none => pure ()
    match found.value with
    | some (some value) => assign "OPTARG" value
    | some none => unset "OPTARG"
    | none => pure ()
    assign "OPTIND" (toString found.place.1)
    assign name found.letter.toString
    modify fun s => { s with optionPlace := found.place }
    return if found.isAtEnd then 1 else 0
  | _ => fail "Usage: getopts optstring var [arg...]"

/-! ## Reading lines -/

/-- How far a line has been read. -/
structure LineReading where
  text : Expanded
  /-- Where the part begins that is cut into fields. -/
  start : Nat
  /-- Whether a backslash has just been read. -/
  isEscaped : Bool

/-- Reads a line byte by byte; gives it and whether there was an end to it. The number bounds the
bytes. -/
def readLine (raw : Bool) : Nat → LineReading → Sh (LineReading × Bool)
  | 0, line => return (line, false)
  | n + 1, line => do
    match ← ask (.read Task.input 1) with
    | .ok [byte] =>
      let c := Text.ByteText.charOf byte
      if byte == 0 then readLine raw n line
      else if line.isEscaped then
        let text := line.text.addRegion line.start false
        let text := if c == '\n' then text else text.put (.char c true)
        readLine raw n ⟨text, text.size, false⟩
      else if c == '\\' && !raw then readLine raw n { line with isEscaped := true }
      else if c == '\n' then return (line, true)
      else readLine raw n { line with text := line.text.put (.char c true) }
    | _ => return (line, false)

/-- Gives variables the fields of a line. -/
def assignFields : List String → List String → Sh Unit
  | [], _ => return
  | name :: names, [] => do
    assign name ""
    assignFields names []
  | name :: names, field :: fields => do
    assign name field
    assignFields names fields

/-- Reads a line into variables. -/
def read : Builtin := fun _ arguments => do
  let (given, names) ← letters "r" "p" arguments
  if names.isEmpty then fail "arg count"
  let (line, isWhole) ←
    readLine (given.any (·.letter == 'r')) Task.maxPieces ⟨.empty, 0, false⟩
  let text := line.text.addRegion line.start false
  let fields := text.fields (← get).separators (some names.length)
  assignFields names (fields.map fun field => String.ofList (Expanded.chars field))
  return if isWhole then 0 else 1

/-! ## Aliases -/

/-- Shows an alias. -/
def showAlias (a : String × String) : Sh Unit := put (a.1 ++ "=" ++ quotedText a.2 ++ "\n")

/-- Defines aliases, or shows them. -/
def defineAliases : Builtin := fun _ arguments => do
  if arguments.isEmpty then
    (inRows 39 (← get).aliases).forM showAlias
    return 0
  let statuses ← arguments.mapM fun argument => do
    let s ← get
    let rest := argument.toList.tail
    if rest.contains '=' then
      let name := String.ofList (argument.toList.take 1 ++ rest.takeWhile (· != '='))
      let value := String.ofList (argument.toList.drop (name.length + 1))
      let aliases :=
        if (s.aliases.lookup name).isSome then
          s.aliases.map fun a => if a.1 == name then (name, value) else a
        else s.aliases ++ [(name, value)]
      modify fun s => { s with aliases := aliases }
      return 0
    else
      match s.aliases.lookup argument with
      | some value => do
        showAlias (argument, value)
        return 0
      | none => do
        say ("alias: " ++ argument ++ " not found\n")
        return 1
  return if statuses.contains 1 then 1 else 0

/-- Takes aliases away. -/
def removeAliases : Builtin := fun _ arguments => do
  let (given, names) ← letters "a" "" arguments
  if !given.isEmpty then
    modify fun s => { s with aliases := [] }
    return 0
  let statuses ← names.mapM fun name => do
    if ((← get).aliases.lookup name).isNone then
      say ("unalias: " ++ name ++ " not found\n")
      return 1
    modify fun s => { s with aliases := s.aliases.filter (·.1 != name) }
    return 0
  return if statuses.contains 1 then 1 else 0

end AdapterReport.Shell.Sh
