import AdapterReport.Text.Numeral

/-!
# Floating numbers

Numbers with a point and an exponent: how a text is read as one, how it is rounded to a binary
format, and how it is written with a given number of digits. Every number is an exact fraction, and
every rounding goes to the nearest value and from the middle to the even one.
-/

namespace AdapterReport.Text

/-- A number that is not negative. -/
structure Fraction where
  numerator : Nat
  denominator : Nat
  deriving DecidableEq

namespace Fraction

/-- A whole number times a power of a base. -/
def scaled (n base : Nat) (exponent : Int) : Fraction :=
  if 0 ≤ exponent then ⟨n * base.pow exponent.toNat, 1⟩ else ⟨n, base.pow (-exponent).toNat⟩

/-- A fraction times a power of a base. -/
def times (f : Fraction) (base : Nat) (exponent : Int) : Fraction :=
  if 0 ≤ exponent then ⟨f.numerator * base.pow exponent.toNat, f.denominator⟩
  else ⟨f.numerator, f.denominator * base.pow (-exponent).toNat⟩

/-- Whether a fraction is zero. -/
def isZero (f : Fraction) : Bool := f.numerator == 0

/-- Whether a fraction is less than a whole number. -/
def isBelow (f : Fraction) (n : Nat) : Bool := f.numerator < n * f.denominator

/-- The nearest whole number, the even one from the middle. -/
def rounded (f : Fraction) : Nat :=
  let whole := f.numerator / f.denominator
  let rest := 2 * (f.numerator % f.denominator)
  if f.denominator < rest || (rest == f.denominator && whole % 2 == 1) then whole + 1 else whole

/-- About the exponent of the greatest power of two or ten that is not greater than the fraction. -/
def guess (base : Nat) (f : Fraction) : Int :=
  let bits : Int := (Nat.log2 f.numerator : Int) - Nat.log2 f.denominator
  if base == 10 then bits * 30103 / 100000 else bits

/-- The greatest `e` for which the power `base ^ e` is not greater than the fraction; the base is
two or ten. -/
def magnitude (base : Nat) (f : Fraction) : Int :=
  let near := [2, 1, 0, -1].map (f.guess base + ·)
  (near.find? fun e => !(f.times base (-e)).isBelow 1).getD (f.guess base - 2)

end Fraction

/-- A number that a text spells. -/
inductive Floating where
  | finite (isNegative : Bool) (size : Fraction)
  | infinite (isNegative : Bool)
  | notNumber (isNegative : Bool)
  deriving DecidableEq

namespace Floating

/-- A binary format: the number of its digits, the exponent of its least number, and the exponent
that its numbers do not reach. -/
structure Binary where
  digits : Nat
  least : Int
  bound : Int

/-- Numbers of 64 bits. -/
def double : Binary := ⟨53, -1074, 1024⟩

/-- Numbers of 80 bits. -/
def extended : Binary := ⟨64, -16445, 16384⟩

/-- A number at the beginning of a text. -/
structure Reading where
  value : Floating
  rest : List Char
  /-- Whether the number is too great or too small for its format. -/
  isOutOfRange : Bool

/-- An exponent behind its letter, and what is behind it; zero where there is none. -/
def exponent (letter : Char) (s : List Char) : Int × List Char :=
  match s with
  | c :: rest =>
    if c.toLower == letter then
      let (isNegative, digits) := Numeral.sign rest
      match Numeral.natural? 10 digits with
      | some (n, rest) => (if isNegative then -(n : Int) else n, rest)
      | none => (0, s)
    else (0, s)
  | [] => (0, s)

/-- Digits with or without a point: the number without the point, the number of places behind it,
and what is behind the digits. -/
def pointed? (base : Nat) (s : List Char) : Option (Nat × Nat × List Char) :=
  let whole := Numeral.digits base s
  let rest := s.drop whole.length
  match rest with
  | '.' :: behind =>
    let places := Numeral.digits base behind
    if whole.isEmpty && places.isEmpty then none
    else some (Numeral.ofDigits base (whole ++ places), places.length, behind.drop places.length)
  | _ => if whole.isEmpty then none else some (Numeral.ofDigits base whole, 0, rest)

/-- The number of bits or digits beyond which no number of a format reaches. -/
def farthest : Nat := 20000

/-- The fraction of a whole number times a power of a base, or a very small or a very great one
instead of one that is too far from one for every format. -/
def bounded (n base : Nat) (exponent : Int) : Fraction :=
  let size : Int := Nat.log2 n / Nat.log2 base
  if (farthest : Int) < exponent + size then .scaled 1 2 farthest
  else if exponent + size < -(farthest : Int) then .scaled 1 2 (-(farthest : Int))
  else .scaled n base exponent

/-- Reads a fraction: hexadecimal digits behind `0x`, or decimal digits. -/
def fraction? (s : List Char) : Option (Fraction × List Char) :=
  let decimal : Option (Fraction × List Char) :=
    (pointed? 10 s).map fun (n, places, rest) =>
      let (e, rest) := exponent 'e' rest
      (if n == 0 then ⟨0, 1⟩ else bounded n 10 (e - places), rest)
  match s with
  | '0' :: x :: rest =>
    if x.toLower == 'x' then
      match pointed? 16 rest with
      | some (n, places, rest) =>
        let (e, rest) := exponent 'p' rest
        some (if n == 0 then ⟨0, 1⟩ else bounded n 2 (e - 4 * places), rest)
      | none => some (⟨0, 1⟩, x :: rest)
    else decimal
  | _ => decimal

/-- What is behind a word at the beginning of a text, in letters of either case. -/
def behind? (word : String) (s : List Char) : Option (List Char) :=
  let n := word.length
  if (s.take n).map Char.toLower == word.toList then some (s.drop n) else none

/-- The exponent of the unit in which a format counts a fraction. -/
def Binary.unit (format : Binary) (f : Fraction) : Int :=
  max (f.magnitude 2 - (format.digits - 1)) format.least

/-- The nearest number of a format, and whether the fraction is out of its range. -/
def rounded (format : Binary) (isNegative : Bool) (f : Fraction) : Floating × Bool :=
  if f.isZero then (finite isNegative f, false)
  else
    let e := format.unit f
    let n := (f.times 2 (-e)).rounded
    let isGreat : Bool := format.bound ≤ (Nat.log2 n : Int) + e && n != 0
    if isGreat then (infinite isNegative, true)
    else
      let isSmall : Bool := (Nat.log2 n : Int) + 1 < format.digits
      let isExact : Bool := (f.times 2 (-e)).numerator == n * (f.times 2 (-e)).denominator
      (finite isNegative (.scaled n 2 e), n == 0 || (isSmall && !isExact))

/-- Reads a number in a format, behind blanks and a sign. -/
def read? (format : Binary) (s : List Char) : Option Reading :=
  let (isNegative, s) := Numeral.sign (s.dropWhile Numeral.isBlank)
  match behind? "infinity" s, behind? "inf" s, behind? "nan" s with
  | some rest, _, _ | none, some rest, _ => some ⟨infinite isNegative, rest, false⟩
  | none, none, some rest =>
    let inside := rest.tail.takeWhile fun c => c.isAlphanum || c == '_'
    let rest :=
      if rest.head? == some '(' && (rest.drop (inside.length + 1)).head? == some ')' then
        rest.drop (inside.length + 2)
      else rest
    some ⟨notNumber isNegative, rest, false⟩
  | none, none, none =>
    (fraction? s).map fun (f, rest) =>
      let (value, isOutOfRange) := rounded format isNegative f
      ⟨value, rest, isOutOfRange⟩

/-! ## Writing -/

/-- The digits of a number, behind so many zeros that there is one digit more than there are
places. -/
def padded (base n places : Nat) : List Char :=
  let digits := Nat.toDigits base n
  List.replicate (places + 1 - digits.length) '0' ++ digits

/-- Decimal digits with so many places behind the point. -/
def withPlaces (n places : Nat) (keepsPoint : Bool) : List Char :=
  let digits := padded 10 n places
  let whole := digits.take (digits.length - places)
  let behind := digits.drop (digits.length - places)
  if places == 0 && !keepsPoint then whole else whole ++ '.' :: behind

/-- A fraction with so many places behind the point. -/
def fixed (f : Fraction) (places : Nat) (keepsPoint : Bool) : List Char :=
  withPlaces (f.times 10 places).rounded places keepsPoint

/-- The digits of a fraction, one more than so many places, and the exponent of the first one. -/
def leading (f : Fraction) (places : Nat) : Nat × Int :=
  if f.isZero then (0, 0)
  else
    let e := f.magnitude 10
    let n := (f.times 10 (places - e)).rounded
    if n == Nat.pow 10 (places + 1) then (Nat.pow 10 places, e + 1) else (n, e)

/-- An exponent with a sign and at least so many digits. -/
def signedExponent (width : Nat) (e : Int) : List Char :=
  (if e < 0 then '-' else '+') :: (decimalPadded width e.natAbs).toList

/-- A fraction with an exponent and so many places behind the point. -/
def scientific (f : Fraction) (places : Nat) (keepsPoint : Bool) : List Char :=
  let (n, e) := leading f places
  withPlaces n places keepsPoint ++ 'e' :: signedExponent 2 e

/-- Digits with a point, without the zeros at their end. -/
def withoutZeros (s : List Char) : List Char :=
  if s.contains '.' then
    ((s.reverse.dropWhile (· == '0')).dropWhile (· == '.')).reverse
  else s

/-- A fraction with so many digits, in the shorter way. -/
def general (f : Fraction) (digits : Nat) (keepsZeros : Bool) : List Char :=
  let digits := max digits 1
  let (n, e) := leading f (digits - 1)
  let trim (s : List Char) : List Char := if keepsZeros then s else withoutZeros s
  if e < -4 || (digits : Int) ≤ e then
    trim (withPlaces n (digits - 1) keepsZeros) ++ 'e' :: signedExponent 2 e
  else trim (fixed f ((digits : Int) - 1 - e).toNat keepsZeros)

/-- Digits with more zeros at their end, in front of the letter of an exponent. -/
def lengthened (zeros : Nat) (letter : Char) (s : List Char) : List Char :=
  let digits := s.takeWhile (· != letter)
  if zeros == 0 then s else digits ++ List.replicate zeros '0' ++ s.drop digits.length

/-- A fraction of a format in hexadecimal digits, `bits` of which stand before the point; with so
many places behind it, or as many as it needs. -/
def hexadecimal (format : Binary) (bits : Nat) (f : Fraction) (places : Option Nat)
    (keepsPoint : Bool) : List Char :=
  let all := (format.digits - bits) / 4
  let least := format.least + format.digits - 1
  let e := if f.isZero then (bits : Int) - 1 else max (f.magnitude 2) least
  let exponent := e - (bits - 1)
  let exact := (f.times 2 (4 * all - exponent)).rounded
  let count := places.getD all
  let near :=
    (⟨exact, Nat.pow 16 (all - count)⟩ : Fraction).rounded * Nat.pow 16 (count - all)
  let (n, exponent) :=
    if near == Nat.pow 16 (count + 1) then (near / 16, exponent + 4) else (near, exponent)
  let digits := padded 16 n count
  let first := digits.take (digits.length - count)
  let behind := digits.drop (digits.length - count)
  let behind :=
    if places.isNone then (behind.reverse.dropWhile (· == '0')).reverse else behind
  let point := if behind.isEmpty && !keepsPoint then [] else '.' :: behind
  ['0', 'x'] ++ first ++ point ++ 'p' :: signedExponent 1 exponent

end Floating

end AdapterReport.Text
