/-!
# Digits

Numbers and bytes written in digits, to the base 10 and to the base 16 with lower-case letters, and
read from them.
-/

namespace AdapterReport.Text

/-- The digits of `n` to the base 16. -/
def hex (n : Nat) : String :=
  String.ofList (Nat.toDigits 16 n)

/-- The digits of `n` to the base 16, with zeros in front up to `width` digits. -/
def hexPadded (width n : Nat) : String :=
  let digits := Nat.toDigits 16 n
  String.ofList (List.replicate (width - digits.length) '0' ++ digits)

/-- The decimal digits of `n`, with zeros in front up to `width` digits. -/
def decimalPadded (width n : Nat) : String :=
  let digits := Nat.toDigits 10 n
  String.ofList (List.replicate (width - digits.length) '0' ++ digits)

/-- The value of a decimal digit. -/
def digitValue (c : Char) : Nat :=
  c.toNat - '0'.toNat

/-- The number that decimal digits spell. -/
def natOfDigits (digits : List Char) : Nat :=
  digits.foldl (fun n c => n * 10 + digitValue c) 0

/-- The value of a hexadecimal digit of either case. -/
def hexDigit? (c : Char) : Option Nat :=
  if '0' ≤ c && c ≤ '9' then some (digitValue c)
  else if 'a' ≤ c && c ≤ 'f' then some (c.toNat - 'a'.toNat + 10)
  else if 'A' ≤ c && c ≤ 'F' then some (c.toNat - 'A'.toNat + 10)
  else none

/-- Two digits for every byte. -/
def hexBytes (bytes : List UInt8) : String :=
  String.join (bytes.map fun b => hexPadded 2 b.toNat)

/-- The bytes that pairs of hexadecimal digits spell. -/
def bytesOfHex? : List Char → Option (List UInt8)
  | [] => some []
  | [_] => none
  | a :: b :: rest => do
    let high ← hexDigit? a
    let low ← hexDigit? b
    return UInt8.ofNat (16 * high + low) :: (← bytesOfHex? rest)

end AdapterReport.Text
