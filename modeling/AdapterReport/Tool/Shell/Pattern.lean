import AdapterReport.Text.ByteText
import AdapterReport.Tool.Utility.CharacterSet

/-!
# Patterns

A pattern fits a text: a star stands for any bytes, a question mark for one byte, brackets for one
of some bytes. A byte that is literal stands for itself only, and so does the one behind a
backslash.
-/

namespace AdapterReport.Shell

/-- A byte of a pattern. -/
structure PatternChar where
  char : Char
  isLiteral : Bool
  deriving DecidableEq

/-- A pattern. -/
abbrev Pattern := List PatternChar

namespace Pattern

/-- The pattern that only its own text fits. -/
def literal (s : List Char) : Pattern := s.map fun c => ⟨c, true⟩

/-- The order of bytes in a range: those above 127 come first. -/
def rank (c : Char) : Int := if c.toNat < 128 then c.toNat else c.toNat - 256

/-- The class that stands behind an opening bracket in brackets, and what is behind it. -/
def class? (p : Pattern) : Option (CharacterClass × Pattern) :=
  CharacterClass.all.findSome? fun (name, k) =>
    let text := (":" ++ name ++ ":]").toList
    if (p.take text.length) == text.map (fun c => ⟨c, false⟩) then some (k, p.drop text.length)
    else none

/-- The byte at the beginning of a pattern, be it behind a backslash, and what is behind it. -/
def member (first : PatternChar) (rest : Pattern) : Char × Pattern :=
  match first, rest with
  | ⟨'\\', false⟩, next :: rest => (next.char, rest)
  | _, _ => (first.char, rest)

/-- Goes on behind a byte in brackets, unless they end there. -/
def behindMember (more : Bool → Pattern → Option (Bool × Pattern)) (found : Bool) :
    Pattern → Option (Bool × Pattern)
  | [] => none
  | next :: behind =>
    if next == ⟨']', false⟩ then some (found, behind) else more found (next :: behind)

/-- Reads the bytes in brackets behind the first one, and says whether one of them is this byte, and
what is behind the brackets; `none` if they have no end. The number bounds the steps. -/
def inBrackets (c : Char) : Nat → Bool → Pattern → Option (Bool × Pattern)
  | 0, _, _ | _, _, [] => none
  | n + 1, found, first :: rest =>
    let goOn := behindMember (inBrackets c n)
    match if first == ⟨'[', false⟩ then class? rest else none with
    | some (k, rest) => goOn (found || k.holds c) rest
    | none =>
      let (low, rest) := member first rest
      match rest with
      | ⟨'-', false⟩ :: last :: behind =>
        if last == ⟨']', false⟩ then goOn (found || c == low) rest
        else
          let (high, behind) := member last behind
          goOn (found || (rank low ≤ rank c && rank c ≤ rank high)) behind
      | _ => goOn (found || c == low) rest

/-- What is behind an opening bracket if the brackets fit a byte: whether they do, and the pattern
behind them; `none` if there are no brackets. -/
def brackets? (c : Char) (p : Pattern) : Option (Bool × Pattern) :=
  match p with
  | ⟨'!', false⟩ :: rest => (inBrackets c p.length false rest).map fun (found, p) => (!found, p)
  | _ => inBrackets c p.length false p

/-- Whether a text begins with a byte and the rest of it fits. -/
def exactly (more : List Char → Bool) (c : Char) : List Char → Bool
  | d :: s => c == d && more s
  | [] => false

/-- Whether a pattern fits a text. The number bounds the bytes of the pattern. -/
def fitsWithin : Nat → Pattern → List Char → Bool
  | 0, p, s => p.isEmpty && s.isEmpty
  | _, [], s => s.isEmpty
  | n + 1, first :: rest, s =>
    if first.isLiteral then exactly (fitsWithin n rest) first.char s
    else
      match first.char with
      | '?' =>
        match s with
        | _ :: s => fitsWithin n rest s
        | [] => false
      | '*' => (List.range (s.length + 1)).any fun k => fitsWithin n rest (s.drop k)
      | '[' =>
        match s with
        | [] => false
        | d :: s =>
          match brackets? d rest with
          | some (fits, rest) => fits && fitsWithin n rest s
          | none => d == '[' && fitsWithin n rest s
      | '\\' =>
        match rest with
        | next :: rest => exactly (fitsWithin n rest) next.char s
        | [] => exactly (fitsWithin n []) '\\' s
      | c => exactly (fitsWithin n rest) c s

/-- Whether a pattern fits a text. -/
def fits (p : Pattern) (s : List Char) : Bool := fitsWithin p.length p s

/-- Whether a pattern has a byte with a meaning of its own for the names of files. -/
def isActive (p : Pattern) : Bool :=
  p.any fun c => !c.isLiteral && "*?[".toList.contains c.char

/-- The text of a pattern in which nothing has a meaning of its own. -/
def text (p : Pattern) : String := String.ofList (p.map PatternChar.char)

/-! ## Cutting off -/

/-- What a pattern is compared with at the end of a text: the bytes up to a zero. -/
def upToZero (s : List Char) : List Char := s.takeWhile (· != '\x00')

/-- How many bytes at the beginning of a text a pattern fits. -/
def startLength? (p : Pattern) (longest : Bool) (s : List Char) : Option Nat :=
  let lengths := List.range (s.length + 1)
  if longest then lengths.reverse.find? fun k => p.fits (upToZero (s.take k))
  else (List.range ((upToZero s).length + 1)).find? fun k => p.fits (s.take k)

/-- How many bytes stand in front of those at the end of a text that a pattern fits. -/
def endStart? (p : Pattern) (longest : Bool) (s : List Char) : Option Nat :=
  if longest then
    (List.range ((upToZero s).length + 1)).find? fun k => p.fits (upToZero (s.drop k))
  else (List.range (s.length + 1)).reverse.find? fun k => p.fits (upToZero (s.drop k))

end Pattern

end AdapterReport.Shell
