import AdapterReport.Text.Digits

/-!
# Numerals

Whole numbers at the beginning of a text, as programs of a host read them: behind blanks and a sign,
to the base 10, or to a base that the first digits tell.
-/

namespace AdapterReport.Text.Numeral

/-- Whether a byte is a blank for a program of a host. -/
def isBlank (c : Char) : Bool := c == ' ' || ('\t' ≤ c && c ≤ '\r')

/-- A whole number at the beginning of a text. -/
structure Reading where
  value : Int
  /-- What is behind the number. -/
  rest : List Char
  deriving DecidableEq

/-- The digits to a base at the beginning of a text. -/
def digits (base : Nat) (s : List Char) : List Char :=
  s.takeWhile fun c => (hexDigit? c).any (· < base)

/-- The number that digits to a base spell. -/
def ofDigits (base : Nat) (digits : List Char) : Nat :=
  digits.foldl (fun n c => n * base + (hexDigit? c).getD 0) 0

/-- Reads digits to a base. -/
def natural? (base : Nat) (s : List Char) : Option (Nat × List Char) :=
  let found := digits base s
  if found.isEmpty then none else some (ofDigits base found, s.drop found.length)

/-- Reads digits to the base 16 behind `0x`, to the base 8 behind a zero, else to the base 10. -/
def anyBase? (s : List Char) : Option (Nat × List Char) :=
  match s with
  | '0' :: x :: rest =>
    if x == 'x' || x == 'X' then
      match natural? 16 rest with
      | some found => some found
      | none => some (0, x :: rest)
    else natural? 8 s
  | _ => natural? 10 s

/-- Reads a sign: whether it is a minus, and what is behind it. -/
def sign : List Char → Bool × List Char
  | '-' :: s => (true, s)
  | '+' :: s => (false, s)
  | s => (false, s)

/-- Reads a number behind blanks and a sign. -/
def signed? (read : List Char → Option (Nat × List Char)) (s : List Char) : Option Reading :=
  let (isNegative, rest) := sign (s.dropWhile isBlank)
  (read rest).map fun (n, rest) => ⟨if isNegative then -(n : Int) else n, rest⟩

/-- The greatest number of 64 bits with a sign. -/
def greatest : Int := Int64.maxValue.toInt

/-- The least number of 64 bits with a sign. -/
def least : Int := Int64.minValue.toInt

/-- The nearest number of 64 bits with a sign. -/
def clamped (n : Int) : Int := max least (min greatest n)

end AdapterReport.Text.Numeral
