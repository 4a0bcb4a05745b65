import AdapterReport.Text.Numeral

/-!
# Escapes

In the texts of `echo` and `printf` a backslash and what follows it stand for one byte. The same
letters are known everywhere; the readings differ in how an octal number begins, in whether there
are hexadecimal numbers, and in what a text may end with. The texts are byte texts.
-/

namespace AdapterReport

/-- Which escapes are known. -/
structure EscapeStyle where
  /-- Whether a zero may stand before the three digits of an octal number. -/
  leadingZero : Bool
  /-- Whether `\x` begins a hexadecimal number. -/
  hexadecimal : Bool
  /-- Whether `\c` ends the text. -/
  stops : Bool
  /-- Whether `\u` and `\U` begin the number of a character, `\x` must be followed by a digit, and a
  double quote may stand behind a backslash. -/
  wide : Bool

/-- How the reading of a text ends. -/
inductive EscapeEnd where
  /-- The whole text was read. -/
  | complete
  /-- An escape has ended the text. -/
  | stopped
  /-- A number has no digits. -/
  | noDigits
  /-- There is no character with this number. -/
  | noCharacter (number : Nat)
  deriving DecidableEq

namespace Escape

/-- What has been read of an escape. -/
inductive Begun where
  | nothing
  | backslash
  /-- An octal number that may have some more digits. -/
  | octal (digits value : Nat)
  /-- The start of a hexadecimal number. -/
  | hexStart
  /-- A hexadecimal number that may have one more digit. -/
  | hexDigit (value : Nat)
  /-- The number of a character that must have some more digits, behind this letter. -/
  | universal (letter : Char) (digits value : Nat)
  /-- The text has ended before its last character. -/
  | over (reason : EscapeEnd)

/-- The bytes read so far, in reverse order, and the escape begun. -/
structure Progress where
  read : List Char
  begun : Begun

/-- The byte of a letter behind a backslash. -/
def letter? : Char → Option Char
  | 'a' => some '\x07'
  | 'b' => some '\x08'
  | 'e' => some '\x1b'
  | 't' => some '\t'
  | 'n' => some '\n'
  | 'v' => some '\x0b'
  | 'f' => some '\x0c'
  | 'r' => some '\r'
  | '\\' => some '\\'
  | _ => none

/-- The value of an octal digit. -/
def octalDigit? (c : Char) : Option Nat :=
  if '0' ≤ c && c ≤ '7' then some (Text.digitValue c) else none

/-- The byte of a number. -/
def byte (n : Nat) : Char := Char.ofNat (n % 256)

/-- Reads a byte outside of an escape. -/
def plain (read : List Char) (c : Char) : Progress :=
  if c == '\\' then ⟨read, .backslash⟩ else ⟨c :: read, .nothing⟩

/-- Reads the byte behind a backslash. One that begins no escape leaves the backslash alone. -/
def afterBackslash (style : EscapeStyle) (read : List Char) (c : Char) : Progress :=
  match octalDigit? c, letter? c with
  | some 0, _ => ⟨read, .octal (if style.leadingZero then 3 else 2) 0⟩
  | some digit, _ => ⟨read, .octal 2 digit⟩
  | none, some byte => ⟨byte :: read, .nothing⟩
  | none, none =>
    if c == 'c' && style.stops then ⟨read, .over .stopped⟩
    else if c == 'x' && style.hexadecimal then ⟨read, .hexStart⟩
    else if style.wide && c == 'u' then ⟨read, .universal 'u' 4 0⟩
    else if style.wide && c == 'U' then ⟨read, .universal 'U' 8 0⟩
    else if style.wide && c == '"' then ⟨c :: read, .nothing⟩
    else ⟨c :: '\\' :: read, .nothing⟩

/-- What stands for a character: itself if it is a byte of its own, else its escape again. -/
def character (n : Nat) : List Char :=
  if n < 128 then [Char.ofNat n]
  else
    let upper := (Nat.toDigits 16 n).map Char.toUpper
    if n < 65536 then ['\\', 'u'] ++ List.replicate (4 - upper.length) '0' ++ upper
    else ['\\', 'U'] ++ List.replicate (8 - upper.length) '0' ++ upper

/-- Reads the last digit of the number of a character. -/
def complete (read : List Char) (n : Nat) : Progress :=
  if 0xD800 ≤ n && n ≤ 0xDFFF then ⟨read, .over (.noCharacter n)⟩
  else ⟨(character n).reverse ++ read, .nothing⟩

/-- Reads a byte. -/
def step (style : EscapeStyle) (p : Progress) (c : Char) : Progress :=
  match p.begun with
  | .nothing => plain p.read c
  | .backslash => afterBackslash style p.read c
  | .octal digits value =>
    match digits, octalDigit? c with
    | more + 1, some digit => ⟨p.read, .octal more (value * 8 + digit)⟩
    | _, _ => plain (byte value :: p.read) c
  | .hexStart =>
    match Text.hexDigit? c with
    | some digit => ⟨p.read, .hexDigit digit⟩
    | none =>
      if style.wide then ⟨p.read, .over .noDigits⟩ else plain ('x' :: '\\' :: p.read) c
  | .hexDigit value =>
    match Text.hexDigit? c with
    | some digit => ⟨byte (value * 16 + digit) :: p.read, .nothing⟩
    | none => plain (byte value :: p.read) c
  | .universal letter digits value =>
    match Text.hexDigit? c with
    | some digit =>
      let n := value * 16 + digit
      if digits ≤ 1 then complete p.read n else ⟨p.read, .universal letter (digits - 1) n⟩
    | none => ⟨p.read, .over .noDigits⟩
  | .over _ => p

/-- The bytes read, in reverse order, and how the reading ends, at the end of the text. -/
def Progress.finish (style : EscapeStyle) (p : Progress) : List Char × EscapeEnd :=
  match p.begun with
  | .nothing => (p.read, .complete)
  | .backslash => ('\\' :: p.read, .complete)
  | .octal _ value | .hexDigit value => (byte value :: p.read, .complete)
  | .hexStart =>
    if style.wide then (p.read, .noDigits) else ('x' :: '\\' :: p.read, .complete)
  | .universal _ _ _ => (p.read, .noDigits)
  | .over reason => (p.read, reason)

/-- The bytes that a text with escapes stands for, and how the reading ends. -/
def read (style : EscapeStyle) (text : List Char) : List Char × EscapeEnd :=
  let (bytes, reason) := (text.foldl (step style) ⟨[], .nothing⟩).finish style
  (bytes.reverse, reason)

end Escape

end AdapterReport
