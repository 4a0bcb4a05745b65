import AdapterReport.Tool.Utility.Basic

/-!
# Options of utilities

The options of a utility: letters behind one dash, and long names behind two, of which a beginning
that fits only one of them is enough. Options may stand behind operands unless the utility says that
the first operand ends them.
-/

namespace AdapterReport.Utility

/-- A long name for an option. -/
structure LongName where
  name : String
  /-- The letter that it stands for. -/
  letter : Char

/-- The options that a utility has. -/
structure OptionTable where
  /-- The letters without a value. -/
  flags : List Char
  /-- The letters with a value. -/
  valued : List Char
  long : List LongName
  /-- Whether options may stand behind operands. -/
  permutes : Bool

/-- An option that was given. -/
structure GivenOption where
  letter : Char
  value : String

/-- The options given, up to the first one that makes no sense, and the operands. -/
structure Given where
  options : List GivenOption
  operands : List String
  /-- What is wrong with the first option that makes no sense. -/
  fault : Option String

namespace OptionTable

variable (table : OptionTable)

/-- The option that a long name stands for; `text` is the name with what stands behind it. -/
def long? (name text : String) : Except String LongName :=
  let fitting := table.long.filter fun l => name.toList.isPrefixOf l.name.toList
  match table.long.find? (·.name == name), fitting with
  | some l, _ => .ok l
  | none, [] => .error ("unrecognized option '--" ++ text ++ "'")
  | none, l :: more =>
    if more.all (·.letter == l.letter) then .ok l
    else
      let shown := String.join (fitting.map fun l => " '--" ++ l.name ++ "'")
      .error ("option '--" ++ text ++ "' is ambiguous; possibilities:" ++ shown)

/-- Reads the letters behind a dash; the last one may take its value from the next argument. Gives
the options and, if all of them make sense, the arguments behind them. -/
def letters : List Char → List String → List GivenOption × Except String (List String)
  | [], rest => ([], .ok rest)
  | c :: more, rest =>
    if table.flags.contains c then
      let (given, rest) := letters more rest
      (⟨c, ""⟩ :: given, rest)
    else if table.valued.contains c then
      match more, rest with
      | [], [] => ([], .error ("option requires an argument -- '" ++ c.toString ++ "'"))
      | [], value :: rest => ([⟨c, value⟩], .ok rest)
      | _, _ => ([⟨c, String.ofList more⟩], .ok rest)
    else ([], .error ("invalid option -- '" ++ c.toString ++ "'"))

/-- Reads an argument behind two dashes. -/
def longOption (text : List Char) (rest : List String) :
    Except String (GivenOption × List String) := do
  let name := text.takeWhile (· != '=')
  let value := text.dropWhile (· != '=')
  let l ← table.long? (String.ofList name) (String.ofList text)
  let takes := table.valued.contains l.letter
  match value, rest with
  | _ :: value, _ =>
    if takes then .ok (⟨l.letter, String.ofList value⟩, rest)
    else .error ("option '--" ++ l.name ++ "' doesn't allow an argument")
  | [], first :: rest =>
    if takes then .ok (⟨l.letter, first⟩, rest) else .ok (⟨l.letter, ""⟩, first :: rest)
  | [], [] =>
    if takes then .error ("option '--" ++ l.name ++ "' requires an argument")
    else .ok (⟨l.letter, ""⟩, [])

/-- Reads arguments. The number bounds the steps; each one reads an argument at least. -/
def readAll : Nat → List String → Given
  | 0, arguments => ⟨[], arguments, none⟩
  | _, [] => ⟨[], [], none⟩
  | n + 1, argument :: rest =>
    match argument.toList with
    | ['-', '-'] => ⟨[], rest, none⟩
    | '-' :: '-' :: text =>
      match table.longOption text rest with
      | .error e => ⟨[], [], some e⟩
      | .ok (given, rest) =>
        let more := readAll n rest
        { more with options := given :: more.options }
    | '-' :: c :: more =>
      match table.letters (c :: more) rest with
      | (given, .error e) => ⟨given, [], some e⟩
      | (given, .ok rest) =>
        let more := readAll n rest
        { more with options := given ++ more.options }
    | _ =>
      if table.permutes then
        let more := readAll n rest
        { more with operands := argument :: more.operands }
      else ⟨[], argument :: rest, none⟩

end OptionTable

/-- The letter of the option that asks for help. -/
def helpLetter : Char := '\x01'

/-- The letter of the option that asks for the version. -/
def versionLetter : Char := '\x02'

/-- The long names that every utility knows. -/
def commonNames : List LongName := [⟨"help", helpLetter⟩, ⟨"version", versionLetter⟩]

/-- The letters of the long names that every utility knows. -/
def commonFlags : List Char := [helpLetter, versionLetter]

/-- Whether an option asks only for something to be told. -/
def Given.asksToTell (g : Given) : Bool :=
  g.options.any fun o => commonFlags.contains o.letter

/-- The options and operands that arguments give. What stands behind an option that asks only for
something to be told does not matter. -/
def OptionTable.read (table : OptionTable) (arguments : List String) : Given :=
  let given := table.readAll (arguments.length + 1) arguments
  if given.asksToTell then { given with fault := none } else given

end AdapterReport.Utility
