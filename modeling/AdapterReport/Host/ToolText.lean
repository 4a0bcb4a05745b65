import AdapterReport.Facts.Summary
import AdapterReport.Text.Blank
import AdapterReport.Text.Lines

/-!
# What tools and files say

The texts from which facts are read: the driver's description of itself (`DriverInfo.ofText`), the
kernel's memory figures (`memoryFields`, `memory?`), and the description of the distribution
(`description?`).
-/

namespace AdapterReport

/-! ## The driver of an interface -/

/-- What a driver says about itself. -/
structure DriverInfo where
  driver : Option String
  version : Option String
  firmwareVersion : Option String
  busInfo : Option String
  deriving DecidableEq

namespace DriverInfo

/-- A driver that says nothing. -/
def blank : DriverInfo := ⟨none, none, none, none⟩

/-- Takes over a line `key: value`. A line without a colon, with a blank value or with an unknown
key changes nothing. -/
def addLine (info : DriverInfo) (line : String) : DriverInfo :=
  match Text.splitAtFirst ':' line.toList with
  | none => info
  | some (key, value) =>
    let value := Text.trim (String.ofList value)
    if value.isEmpty then info
    else match Text.trim (String.ofList key) with
      | "driver" => { info with driver := some value }
      | "version" => { info with version := some value }
      | "firmware-version" => { info with firmwareVersion := some value }
      | "bus-info" => { info with busInfo := some value }
      | _ => info

/-- What the lines of a text say; a later line wins. -/
def ofText (text : String) : DriverInfo :=
  (Text.lines text).foldl addLine blank

end DriverInfo

/-- The first line that is not blank, without the blanks at its ends. -/
def firstLine? (text : String) : Option String :=
  ((Text.lines text).map Text.trim).find? fun line => !line.isEmpty

/-! ## Memory -/

/-- The name and the figure of a line `name: figure kB`. The figure has decimal digits only and fits
64 bits; what follows the unit does not matter. -/
def memoryLine? (line : List Char) : Option (String × UInt64) := do
  let (name, rest) ← Text.splitAtFirst ':' line
  let figure := Text.dropBlanks rest
  let digits := figure.takeWhile Char.isDigit
  let value := Text.natOfDigits digits
  let unit := Text.dropBlanks (figure.dropWhile Char.isDigit)
  if !name.isEmpty && !digits.isEmpty && "kB".toList.isPrefixOf unit && value < UInt64.size then
    some (String.ofList name, UInt64.ofNat value)
  else none

/-- Sets the value of a key, in its old place if the key is there. -/
def setValue {α : Type} (key : String) (value : α) : List (String × α) → List (String × α)
  | [] => [(key, value)]
  | (k, v) :: rest => if k = key then (k, value) :: rest else (k, v) :: setValue key value rest

/-- The figures of a text in kilobytes, by their names; a later line wins. -/
def memoryFields (text : String) : List (String × UInt64) :=
  ((Text.lines text).filterMap fun line => memoryLine? line.toList).foldl
    (fun fields f => setValue f.1 f.2 fields) []

/-- Total and free memory, if the text has both. -/
def memory? (text : String) : Option Memory := do
  let fields := memoryFields text
  let total ← fields.lookup "MemTotal"
  let free ← fields.lookup "MemFree"
  return ⟨total / 1024, free / 1024⟩

/-! ## The distribution -/

/-- The description in a text that begins with `Description:`. It begins with the first character
behind that which is not blank, and ends with its line. -/
def description? (text : String) : Option String :=
  if "Description:".toList.isPrefixOf text.toList then
    let rest := Text.dropBlanks (text.toList.drop "Description:".length)
    let line := Text.dropBlanksEnd (rest.takeWhile (· != '\n'))
    if line.isEmpty then none else some (String.ofList line)
  else none

end AdapterReport
