import AdapterReport.Text.Digits

/-!
# JSON numbers

`scanNumber` reads a number off the front of a text. Two readers may ask for it: one wants its
value, the other only passes over it. They differ on a number that breaks off, and on one too
large for a double, which only the first one refuses. A number without fraction and exponent is an
integer if it fits 64 bits, signed below zero and unsigned above; any other number is `real`.
-/

namespace AdapterReport.Json

/-- Why a text cannot be read as the value that is wanted. -/
inductive Fault where
  /-- The text is no JSON here. -/
  | malformed
  /-- The text ends too early. -/
  | ended
  /-- The text is JSON, but not what is wanted. -/
  | mismatched
  deriving DecidableEq

/-- A fault in a few words. -/
def Fault.text : Fault → String
  | .malformed => "the text is not JSON"
  | .ended => "the text ends too early"
  | .mismatched => "the value is not what is wanted"

/-- The value of a number, as far as it matters. -/
inductive Numeral where
  | int (n : Int)
  | real

/-- A number as its two readers see it. -/
structure NumberScan where
  /-- For the reader that wants the value. -/
  value : Except Fault Numeral
  /-- For the reader that passes over it: why it cannot, if so. -/
  broken : Option Fault

/-- Digits are read into a significand of 64 bits; the power of ten takes up the rest. -/
structure Scaled where
  significand : Nat
  exponent : Int

/-- Whether the significand has room for one more digit. -/
def Scaled.hasRoom (s : Scaled) (digit : Nat) : Bool :=
  s.significand * 10 + digit < UInt64.size

/-- The digits in front of the point. From the first one without room on they only count. -/
def Scaled.whole (s : Scaled) : List Char → Scaled
  | [] => s
  | c :: cs =>
    if s.hasRoom (Text.digitValue c) then
      Scaled.whole ⟨s.significand * 10 + Text.digitValue c, s.exponent⟩ cs
    else ⟨s.significand, s.exponent + (cs.length + 1)⟩

/-- The digits behind the point. From the first one without room on they are dropped. -/
def Scaled.fraction (s : Scaled) : List Char → Scaled
  | [] => s
  | c :: cs =>
    if s.hasRoom (Text.digitValue c) then
      Scaled.fraction ⟨s.significand * 10 + Text.digitValue c, s.exponent - 1⟩ cs
    else s

/-- The number rounded to 53 significant bits, halves to the even neighbour. -/
def round53 (n : Nat) : Nat :=
  let drop := n.log2 + 1 - 53
  let unit := Nat.pow 2 drop
  let low := n / unit * unit
  let twice := 2 * (n - low)
  if twice < unit then low
  else if twice > unit then low + unit
  else if n / unit % 2 == 0 then low else low + unit

/-- Whether the number has no finite double: the significand and the power of ten are rounded to
doubles, then their product. -/
def Scaled.isOutOfRange (s : Scaled) : Bool :=
  s.significand != 0 && 0 ≤ s.exponent &&
    (308 < s.exponent ||
      Nat.pow 2 1024 ≤ round53 (round53 s.significand * round53 (Nat.pow 10 s.exponent.toNat)))

/-- The value of a number with a fraction or an exponent, or without room for all its digits. -/
def Scaled.value (s : Scaled) : Except Fault Numeral :=
  if s.isOutOfRange then .error .malformed else .ok .real

/-- The value of a number of digits only. -/
def integerValue (negative : Bool) (digits : List Char) : Except Fault Numeral :=
  let n := Text.natOfDigits digits
  if UInt64.size ≤ n then (Scaled.whole ⟨0, 0⟩ digits).value
  else if !negative then .ok (.int n)
  else if n = 0 || UInt64.size / 2 < n then .ok .real
  else .ok (.int (-n))

/-- A number that is wrong where `rest` begins. -/
def brokenNumber (rest : List Char) : NumberScan × List Char :=
  (⟨.error (if rest.isEmpty then .ended else .malformed), some .malformed⟩, rest)

/-- The exponent behind the letter `e`. -/
def scanExponent (scaled : Scaled) (s : List Char) : NumberScan × List Char :=
  let (negative, s) := match s with
    | '+' :: s => (false, s)
    | '-' :: s => (true, s)
    | s => (false, s)
  let digits := s.takeWhile Char.isDigit
  let rest := s.dropWhile Char.isDigit
  if digits.isEmpty then brokenNumber rest
  else
    let e : Int := Text.natOfDigits digits
    (⟨(Scaled.mk scaled.significand (scaled.exponent + if negative then -e else e)).value, none⟩,
      rest)

/-- What may follow the digits of a fraction. -/
def scanAfterFraction (scaled : Scaled) : List Char → NumberScan × List Char
  | 'e' :: s | 'E' :: s => scanExponent scaled s
  | s => (⟨scaled.value, none⟩, s)

/-- What may follow the digits in front of the point. -/
def scanAfterDigits (negative : Bool) (digits : List Char) :
    List Char → NumberScan × List Char
  | '.' :: s =>
    let places := s.takeWhile Char.isDigit
    let rest := s.dropWhile Char.isDigit
    if places.isEmpty then brokenNumber rest
    else scanAfterFraction ((Scaled.whole ⟨0, 0⟩ digits).fraction places) rest
  | 'e' :: s | 'E' :: s => scanExponent (Scaled.whole ⟨0, 0⟩ digits) s
  | s => (⟨integerValue negative digits, none⟩, s)

/-- The digits in front of the point; a zero stands alone. -/
def scanDigits (negative : Bool) (s : List Char) : NumberScan × List Char :=
  let digits := s.takeWhile Char.isDigit
  let rest := s.dropWhile Char.isDigit
  if digits.isEmpty then brokenNumber rest
  else if digits.head? = some '0' && 1 < digits.length then
    (⟨.error .malformed, some .malformed⟩, rest)
  else scanAfterDigits negative digits rest

/-- Reads a number off the front of a text that begins with a digit or a minus sign. -/
def scanNumber : List Char → NumberScan × List Char
  | '-' :: s => scanDigits true s
  | s => scanDigits false s

end AdapterReport.Json
