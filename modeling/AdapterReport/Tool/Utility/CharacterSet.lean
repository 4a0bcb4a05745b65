import AdapterReport.Tool.Utility.Quoting
import AdapterReport.Text.Numeral

/-!
# Character sets

The strings of `tr`: bytes, ranges of them, classes, repetitions and escapes. `CharacterSet.read`
reads one, and `CharacterSet.members` gives its bytes in their order.
-/

namespace AdapterReport

/-- A class of bytes. -/
inductive CharacterClass where
  | alnum
  | alpha
  | blank
  | cntrl
  | digit
  | graph
  | lower
  | print
  | punct
  | space
  | upper
  | xdigit
  deriving DecidableEq

namespace CharacterClass

/-- The classes by their names. -/
def all : List (String × CharacterClass) :=
  [("alnum", alnum), ("alpha", alpha), ("blank", blank), ("cntrl", cntrl), ("digit", digit),
    ("graph", graph), ("lower", lower), ("print", print), ("punct", punct), ("space", space),
    ("upper", upper), ("xdigit", xdigit)]

/-- The class of this name. -/
def named? (name : String) : Option CharacterClass := all.lookup name

/-- Whether a byte is in a class. -/
def holds (c : Char) : CharacterClass → Bool
  | alnum => c.isAlphanum
  | alpha => c.isAlpha
  | blank => c == ' ' || c == '\t'
  | cntrl => c < ' ' || c == '\x7f'
  | digit => c.isDigit
  | graph => ' ' < c && c ≤ '~'
  | lower => c.isLower
  | print => Quoting.isPrintable c
  | punct => ' ' < c && c ≤ '~' && !c.isAlphanum
  | space => Text.Numeral.isBlank c
  | upper => c.isUpper
  | xdigit => (Text.hexDigit? c).isSome

end CharacterClass

/-- A part of a character set. -/
inductive SetItem where
  | one (c : Char)
  | range (first last : Char)
  | ofClass (k : CharacterClass)
  /-- The bytes that count as the same. -/
  | equivalent (c : Char)
  /-- The same byte so many times; zero stands for as often as it takes. -/
  | repeated (c : Char) (count : Nat)
  deriving DecidableEq

/-- The parts of a character set, in their order. -/
abbrev CharacterSet := List SetItem

/-- Why a string is no character set. -/
inductive SetError where
  | missingClass
  | missingEquivalent
  | invalidClass (name : String)
  | longEquivalent (text : String)
  | invalidCount (text : String)
  | reversedRange (first last : Char)
  deriving DecidableEq

namespace SetError

/-- A byte as it is shown. -/
def shown1 (c : Char) : String :=
  if Quoting.isPrintable c then c.toString else String.ofList ('\\' :: Quoting.octal c.toNat)

/-- A text as it is shown. -/
def shown (s : String) : String :=
  String.join (s.toList.map fun c =>
    match Quoting.escapeLetter? c with
    | some letter => String.ofList ['\\', letter]
    | none => if c == '\\' then "\\\\" else shown1 c)

/-- What is said about a string that is no character set. -/
def message : SetError → String
  | missingClass => "missing character class name '[::]'"
  | missingEquivalent => "missing equivalence class character '[==]'"
  | invalidClass name => "invalid character class " ++ Quoting.plain (shown name)
  | longEquivalent text =>
    shown text ++ ": equivalence class operand must be a single character"
  | invalidCount text =>
    "invalid repeat count " ++ Quoting.plain (shown text) ++ " in [c*n] construct"
  | reversedRange first last =>
    "range-endpoints of '" ++ shown1 first ++ "-" ++ shown1 last
      ++ "' are in reverse collating sequence order"

end SetError

namespace CharacterSet

/-! ## Escapes -/

/-- A byte of a string, and whether a backslash stood before it. -/
structure Sign where
  char : Char
  escaped : Bool
  deriving DecidableEq

/-- The byte of a letter behind a backslash. -/
def escapedLetter (c : Char) : Char :=
  match c with
  | 'a' => '\x07'
  | 'b' => '\x08'
  | 'f' => '\x0c'
  | 'n' => '\n'
  | 'r' => '\r'
  | 't' => '\t'
  | 'v' => '\x0b'
  | c => c

/-- The octal digits at the beginning of a text, at most three and no more than make a byte. -/
def octalDigits (s : List Char) : List Char :=
  let digits := (s.takeWhile fun c => '0' ≤ c && c ≤ '7').take 3
  if 256 ≤ Text.Numeral.ofDigits 8 digits then digits.take 2 else digits

/-- What is said about escapes that could mean something else. -/
def warning (s : List Char) : List String :=
  match s with
  | [] => ["warning: an unescaped backslash at end of string is not portable"]
  | a :: b :: c :: _ =>
    if octalDigits [a, b, c] == [a, b] && '0' ≤ c && c ≤ '7' then
      ["warning: the ambiguous octal escape \\" ++ String.ofList [a, b, c]
        ++ " is being\n\tinterpreted as the 2-byte sequence \\0" ++ String.ofList [a, b] ++ ", "
        ++ c.toString]
    else []
  | _ => []

/-- The bytes of a string, and what is said about its escapes. The number bounds the steps. -/
def signs : Nat → List Char → List Sign × List String
  | 0, _ | _, [] => ([], [])
  | n + 1, '\\' :: rest =>
    let digits := octalDigits rest
    let (sign, behind) : Sign × List Char :=
      match rest, digits with
      | [], _ => (⟨'\\', false⟩, [])
      | c :: more, [] => (⟨escapedLetter c, true⟩, more)
      | _, _ => (⟨Char.ofNat (Text.Numeral.ofDigits 8 digits), true⟩, rest.drop digits.length)
    let (more, warnings) := signs n behind
    (sign :: more, warning rest ++ warnings)
  | n + 1, c :: rest =>
    let (more, warnings) := signs n rest
    (⟨c, false⟩ :: more, warnings)

/-! ## Parts -/

/-- The text of some bytes. -/
def textOf (s : List Sign) : String := String.ofList (s.map Sign.char)

/-- What stands before the first of two bytes that no backslash stands before, and what is behind
them. -/
def splitAt (first second : Char) : List Sign → Option (List Sign × List Sign)
  | a :: b :: rest =>
    if a == ⟨first, false⟩ && b == ⟨second, false⟩ then some ([], rest)
    else (splitAt first second (b :: rest)).map fun (before, behind) => (a :: before, behind)
  | _ => none

/-- What stands before a closing bracket, if no backslash does so, and what is behind it. -/
def upToBracket : List Sign → Option (List Sign × List Sign)
  | [] => none
  | s :: rest =>
    if s.escaped then none
    else if s.char == ']' then some ([], rest)
    else (upToBracket rest).map fun (before, behind) => (s :: before, behind)

/-- The greatest number of repetitions. -/
def mostRepetitions : Nat := UInt64.size - 2

/-- Reads a number of repetitions, to the base 8 if it begins with a zero. -/
def repetitions? (digits : List Char) : Option Nat :=
  let base := if digits.head? == some '0' then 8 else 10
  match digits with
  | [] => some 0
  | _ =>
    match Text.Numeral.natural? base digits with
    | some (n, []) => if n ≤ mostRepetitions then some n else none
    | _ => none

/-- Reads a repetition behind an opening bracket; `none` if there is none. -/
def repetition? (s : List Sign) : Option (Except SetError (SetItem × List Sign)) :=
  match s with
  | c :: ⟨'*', false⟩ :: rest =>
    (upToBracket rest).map fun (digits, behind) =>
      match repetitions? (digits.map Sign.char) with
      | some n => .ok (.repeated c.char n, behind)
      | none => .error (.invalidCount (textOf digits))
  | _ => none

/-- Whether what stands here is a star, digits and a closing bracket. -/
def endsRepetition (s : List Sign) : Bool :=
  match s with
  | ⟨'*', false⟩ :: rest =>
    (rest.find? fun d => !d.char.isDigit || d.escaped) == some ⟨']', false⟩
  | _ => false

/-- Reads a class behind an opening bracket; `none` if there is none. -/
def class? (s : List Sign) : Option (Except SetError (SetItem × List Sign)) :=
  match s with
  | ⟨':', false⟩ :: rest =>
    (splitAt ':' ']' rest).bind fun (name, behind) =>
      match name, CharacterClass.named? (textOf name) with
      | [], _ => some (.error .missingClass)
      | _, some k => some (.ok (.ofClass k, behind))
      | _, none => if endsRepetition rest then none else some (.error (.invalidClass (textOf name)))
  | ⟨'=', false⟩ :: rest =>
    (splitAt '=' ']' rest).bind fun (name, behind) =>
      match name with
      | [] => some (.error .missingEquivalent)
      | [c] => some (.ok (.equivalent c.char, behind))
      | _ =>
        if endsRepetition rest then none else some (.error (.longEquivalent (textOf name)))
  | _ => none

/-- Reads the first part. -/
def item (first : Sign) (rest : List Sign) : Except SetError (SetItem × List Sign) :=
  let bracketed :=
    if first == ⟨'[', false⟩ && 2 ≤ rest.length then (class? rest).or (repetition? rest) else none
  match bracketed, rest with
  | some found, _ => found
  | none, ⟨'-', false⟩ :: last :: behind =>
    if last.char < first.char then .error (.reversedRange first.char last.char)
    else .ok (.range first.char last.char, behind)
  | none, _ => .ok (.one first.char, rest)

/-- Reads the parts. The number bounds the steps. -/
def items : Nat → List Sign → Except SetError CharacterSet
  | 0, _ | _, [] => .ok []
  | n + 1, first :: rest => do
    let (found, behind) ← item first rest
    return found :: (← items n behind)

/-- Reads a string: the set, and what is said about its escapes. -/
def read (s : String) : Except SetError CharacterSet × List String :=
  let (found, warnings) := signs (s.length + 1) s.toList
  (items (found.length + 1) found, warnings)

/-! ## Bytes -/

/-- A byte of a set. -/
structure Member where
  char : Char
  /-- Whether it belongs to the upper or lower case letters, as such. -/
  ofCase : Option CharacterClass
  /-- Whether it is the first one of its part. -/
  isFirst : Bool
  deriving DecidableEq

/-- All bytes. -/
def allBytes : List Char := (List.range 256).map Char.ofNat

/-- More bytes of one part than there are different ones, by far. -/
def mostMembers : Nat := 65536

/-- The bytes of a part. -/
def chars : SetItem → List Char
  | .one c | .equivalent c => [c]
  | .range first last => allBytes.filter fun c => first ≤ c && c ≤ last
  | .ofClass k => allBytes.filter k.holds
  | .repeated c count => List.replicate (min count mostMembers) c

/-- The number of bytes of a part. -/
def size : SetItem → Nat
  | .repeated _ count => count
  | i => (chars i).length

/-- The bytes of a part, with what they are in it. -/
def membersOf (i : SetItem) : List Member :=
  let ofCase := match i with
    | .ofClass .upper => some CharacterClass.upper
    | .ofClass .lower => some CharacterClass.lower
    | _ => none
  (chars i).zipIdx.map fun (c, place) => ⟨c, ofCase, place == 0⟩

/-- The bytes of a set, in their order. -/
def members (set : CharacterSet) : List Member := set.flatMap membersOf

/-- The number of bytes of a set, without repetitions that have no number. -/
def length (set : CharacterSet) : Nat := set.foldl (fun total part => total + size part) 0

/-- Whether each byte is in a set, by its number. -/
def table (set : CharacterSet) (complement : Bool) : Array Bool :=
  let found := set.flatMap chars
  (allBytes.map fun c => found.contains c != complement).toArray

end CharacterSet

end AdapterReport
