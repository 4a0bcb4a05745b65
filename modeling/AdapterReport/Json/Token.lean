import AdapterReport.Json.Numeral
import AdapterReport.Text.Digits

/-!
# JSON tokens

`tokens` cuts a text into brackets, marks, literals, numbers and strings. The list ends with the
first token that no reader can get past; what the text holds behind it is never looked at.
-/

namespace AdapterReport.Json

/-! ## Strings -/

/-- A character of a string, or the number of an escape `\uXXXX`, which may be half a pair. -/
inductive TextUnit where
  | char (c : Char)
  | code (n : Nat)

/-- A string as far as it could be read. -/
structure TextScan where
  units : List TextUnit
  /-- Why the string does not reach its closing quote, if so. -/
  broken : Option Fault

/-- The first of the two halves that spell a character above U+FFFF. -/
def isLeadHalf (n : Nat) : Bool :=
  0xD800 ≤ n && n ≤ 0xDBFF

/-- The second of the two halves that spell a character above U+FFFF. -/
def isTrailHalf (n : Nat) : Bool :=
  0xDC00 ≤ n && n ≤ 0xDFFF

/-- The characters of a string that ends as `broken` says. A half without its other half is
refused, unless the text ends before the other half can come. -/
def joinUnits (broken : Option Fault) : List TextUnit → Except Fault (List Char)
  | [] => match broken with
    | none => .ok []
    | some fault => .error fault
  | .char c :: rest => (joinUnits broken rest).map (c :: ·)
  | .code n :: rest =>
    if isTrailHalf n then .error .malformed
    else if isLeadHalf n then
      match rest with
      | [] => .error (broken.getD .malformed)
      | .char _ :: _ => .error .malformed
      | .code m :: rest =>
        if isTrailHalf m then
          (joinUnits broken rest).map
            (Char.ofNat (0x10000 + (n - 0xD800) * 0x400 + (m - 0xDC00)) :: ·)
        else .error .malformed
    else (joinUnits broken rest).map (Char.ofNat n :: ·)

/-- The text that a string spells. -/
def TextScan.text (scan : TextScan) : Except Fault String :=
  (joinUnits scan.broken scan.units).map String.ofList

/-- What a string without any text so far goes on to be. -/
def TextScan.cons (unit : TextUnit) (scan : TextScan) : TextScan :=
  ⟨unit :: scan.units, scan.broken⟩

/-- A string that breaks off. -/
def TextScan.breaksOff (fault : Fault) : TextScan :=
  ⟨[], some fault⟩

/-- The character behind a backslash stands for itself or for a control character. -/
def simpleEscape? (c : Char) : Option Char :=
  if c = '\x22' || c = '\\' || c = '/' then some c
  else if c = 'b' then some '\x08'
  else if c = 'f' then some '\x0c'
  else if c = 'n' then some '\n'
  else if c = 'r' then some '\x0d'
  else if c = 't' then some '\x09'
  else none

/-- The number that four hexadecimal digits spell. -/
def hexCode? (a b c d : Char) : Option Nat := do
  let a ← Text.hexDigit? a
  let b ← Text.hexDigit? b
  let c ← Text.hexDigit? c
  let d ← Text.hexDigit? d
  return ((a * 16 + b) * 16 + c) * 16 + d

/-- Whether the text has less than four bytes. -/
def hasUnderFourBytes (s : List Char) : Bool :=
  (s.take 4).foldl (fun size c => size + c.utf8Size) 0 < 4

/-- Reads a string behind its opening quote. What follows the closing quote is the rest. -/
def scanText : List Char → TextScan × List Char
  | [] => (.breaksOff .ended, [])
  | '\\' :: 'u' :: a :: b :: c :: d :: s =>
    match hexCode? a b c d with
    | some n => let (scan, rest) := scanText s; (scan.cons (.code n), rest)
    | none => (.breaksOff .malformed, [])
  | '\\' :: 'u' :: s => (.breaksOff (if hasUnderFourBytes s then .ended else .malformed), [])
  | ['\\'] => (.breaksOff .ended, [])
  | '\\' :: c :: s =>
    match simpleEscape? c with
    | some e => let (scan, rest) := scanText s; (scan.cons (.char e), rest)
    | none => (.breaksOff .malformed, [])
  | c :: s =>
    if c = '\x22' then (⟨[], none⟩, s)
    else if c.toNat < 0x20 then (.breaksOff .malformed, [])
    else let (scan, rest) := scanText s; (scan.cons (.char c), rest)

/-! ## Tokens -/

/-- A piece of JSON text. -/
inductive Token where
  | openArray
  | closeArray
  | openObject
  | closeObject
  | colon
  | comma
  | null
  | bool (b : Bool)
  | number (scan : NumberScan)
  | text (scan : TextScan)
  /-- Characters that begin no token, or a literal that is not spelled out. -/
  | garbled (fault : Fault)

/-- Whether no reader gets past the token. -/
def Token.isLast : Token → Bool
  | .number scan => scan.broken.isSome
  | .text scan => scan.broken.isSome
  | .garbled _ => true
  | _ => false

/-- Reads the rest of a literal. -/
def scanLiteral (token : Token) : List Char → List Char → Token × List Char
  | [], s => (token, s)
  | _ :: _, [] => (.garbled .ended, [])
  | e :: expected, c :: s =>
    if c = e then scanLiteral token expected s else (.garbled .malformed, [])

/-- Reads the token that begins with `c`. -/
def scanToken (c : Char) (s : List Char) : Token × List Char :=
  if c = '[' then (.openArray, s)
  else if c = ']' then (.closeArray, s)
  else if c = '\x7b' then (.openObject, s)
  else if c = '\x7d' then (.closeObject, s)
  else if c = ':' then (.colon, s)
  else if c = ',' then (.comma, s)
  else if c = 'n' then scanLiteral .null "ull".toList s
  else if c = 't' then scanLiteral (.bool true) "rue".toList s
  else if c = 'f' then scanLiteral (.bool false) "alse".toList s
  else if c = '\x22' then
    let (scan, rest) := scanText s
    (.text scan, rest)
  else if c = '-' || c.isDigit then
    let (scan, rest) := scanNumber (c :: s)
    (.number scan, rest)
  else (.garbled .malformed, [])

/-- The space between tokens. -/
def isSpace (c : Char) : Bool :=
  c = ' ' || c = '\n' || c = '\x0d' || c = '\x09'

/-- The tokens of a text, of which at most `fuel` characters are looked at. -/
def tokensWithin : Nat → List Char → List Token
  | 0, _ => []
  | _ + 1, [] => []
  | fuel + 1, c :: s =>
    if isSpace c then tokensWithin fuel s
    else
      let (token, rest) := scanToken c s
      if token.isLast then [token] else token :: tokensWithin fuel rest

/-- The tokens of a text. -/
def tokens (s : String) : List Token :=
  tokensWithin s.toList.length s.toList

end AdapterReport.Json
