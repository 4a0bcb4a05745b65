import AdapterReport.Json.Value
import AdapterReport.Text.Digits

/-!
# JSON text

`quote` writes a text as a JSON string. `compact` writes a value without any space, `pretty` with
one item or member a line, two spaces deeper than the bracket around it; an empty array or object
stays on its line.
-/

namespace AdapterReport.Json

/-- One character of a text, inside the quotes. -/
def escapeChar (c : Char) : String :=
  if c = '\x22' then "\\\""
  else if c = '\\' then "\\\\"
  else if c = '\x08' then "\\b"
  else if c = '\x09' then "\\t"
  else if c = '\n' then "\\n"
  else if c = '\x0c' then "\\f"
  else if c = '\x0d' then "\\r"
  else if c.toNat < 0x20 then "\\u" ++ Text.hexPadded 4 c.toNat
  else String.singleton c

/-- A text in quotes: the quote, the backslash and the control characters are escaped. -/
def quote (s : String) : String :=
  "\"" ++ String.join (s.toList.map escapeChar) ++ "\""

/-- The decimal digits of an integer, with a minus sign if it is negative. -/
def integer (n : Int) : String :=
  match n with
  | .ofNat m => String.ofList (Nat.toDigits 10 m)
  | .negSucc m => "-" ++ String.ofList (Nat.toDigits 10 (m + 1))

mutual

/-- A value on one line and without spaces. -/
def compact : Json → String
  | .null => "null"
  | .bool b => if b then "true" else "false"
  | .number n => integer n
  | .text s => quote s
  | .array items => "[" ++ compactItems items ++ "]"
  | .object members => "\x7b" ++ compactMembers members ++ "\x7d"

/-- Items with commas between them. -/
def compactItems : List Json → String
  | [] => ""
  | [v] => compact v
  | v :: rest => compact v ++ "," ++ compactItems rest

/-- Members with commas between them. -/
def compactMembers : List (String × Json) → String
  | [] => ""
  | [(k, v)] => quote k ++ ":" ++ compact v
  | (k, v) :: rest => quote k ++ ":" ++ compact v ++ "," ++ compactMembers rest

end

/-- A new line that is indented `depth` times. -/
def newLine (depth : Nat) : String :=
  "\n" ++ String.ofList (List.replicate (2 * depth) ' ')

mutual

/-- A value over as many lines as it has items and members, at an indentation of `depth`. -/
def prettyAt (depth : Nat) : Json → String
  | .null => "null"
  | .bool b => if b then "true" else "false"
  | .number n => integer n
  | .text s => quote s
  | .array [] => "[]"
  | .array (v :: rest) => "[" ++ prettyItems (depth + 1) (v :: rest) ++ newLine depth ++ "]"
  | .object [] => "\x7b\x7d"
  | .object (m :: rest) =>
    "\x7b" ++ prettyMembers (depth + 1) (m :: rest) ++ newLine depth ++ "\x7d"

/-- Items on lines of their own. -/
def prettyItems (depth : Nat) : List Json → String
  | [] => ""
  | [v] => newLine depth ++ prettyAt depth v
  | v :: rest => newLine depth ++ prettyAt depth v ++ "," ++ prettyItems depth rest

/-- Members on lines of their own. -/
def prettyMembers (depth : Nat) : List (String × Json) → String
  | [] => ""
  | [(k, v)] => newLine depth ++ quote k ++ ": " ++ prettyAt depth v
  | (k, v) :: rest =>
    newLine depth ++ quote k ++ ": " ++ prettyAt depth v ++ "," ++ prettyMembers depth rest

end

/-- A value over several lines. -/
def pretty (v : Json) : String :=
  prettyAt 0 v

end AdapterReport.Json
