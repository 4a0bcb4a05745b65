import AdapterReport.Text.ByteText

/-!
# Quoting

How a utility shows a text in what it says about errors. `Quoting.plain` always puts single quotes
around it. `Quoting.forShell` shows it the way in which a shell could read it, and `Quoting.path`
does so only where a shell would need it. The texts are byte texts.
-/

namespace AdapterReport.Quoting

/-- Whether a byte can be shown. -/
def isPrintable (c : Char) : Bool := ' ' ≤ c && c ≤ '~'

/-- The letter behind a backslash that stands for a byte without a sign of its own. -/
def escapeLetter? (c : Char) : Option Char :=
  match c.toNat with
  | 7 => some 'a'
  | 8 => some 'b'
  | 9 => some 't'
  | 10 => some 'n'
  | 11 => some 'v'
  | 12 => some 'f'
  | 13 => some 'r'
  | _ => none

/-- Three octal digits. -/
def octal (n : Nat) : List Char :=
  [n / 64, n / 8 % 8, n % 8].map Nat.digitChar

/-- What stands behind a backslash for a byte that cannot be shown. -/
def escaped? (c : Char) : Option (List Char) :=
  if isPrintable c then none
  else match escapeLetter? c with
    | some letter => some [letter]
    | none => some (octal c.toNat)

/-- A byte in single quotes, with a backslash before a single quote and a backslash. -/
def shown (c : Char) : List Char :=
  match escaped? c with
  | some sign => '\\' :: sign
  | none => if c == '\x27' || c == '\\' then ['\\', c] else [c]

/-- The text in single quotes. -/
def plain (s : String) : String := "'" ++ String.ofList (s.toList.flatMap shown) ++ "'"

/-- Whether a byte means something to a shell, wherever it stands. -/
def meansSomething (c : Char) : Bool :=
  " !\"$&()*;<=>[^\x60|?\\'".toList.contains c || !isPrintable c

/-- Whether a text is no simple word for a shell. -/
def needsQuotes (s : List Char) : Bool :=
  match s with
  | [] => true
  | [c] => meansSomething c || "#~\x7b\x7d".toList.contains c
  | c :: rest => "#~".toList.contains c || (c :: rest).any meansSomething

/-- Whether a byte means the same in double quotes as in single quotes. -/
def isTame (index : Nat) (single : Bool) (c : Char) : Bool :=
  if c == '#' || c == '~' then index == 0
  else if c == '\x7b' || c == '\x7d' then single
  else c == ' ' || c == '\x27' || !meansSomething c

/-- The text between single quotes, each part that cannot be shown in quotes of its own. `inside`
says whether such a part has just been written. -/
def inSingleQuotes : Bool → List Char → List Char
  | _, [] => ['\x27']
  | inside, c :: rest =>
    if c == '\x27' then ['\x27', '\\', '\x27', '\x27'] ++ inSingleQuotes false rest
    else match escaped? c with
      | some sign =>
        (if inside then [] else ['\x27', '$', '\x27']) ++ '\\' :: sign ++ inSingleQuotes true rest
      | none => (if inside then ['\x27', '\x27'] else []) ++ c :: inSingleQuotes false rest

/-- The text as a shell could read it. -/
def forShell (s : String) : String :=
  let chars := s.toList
  let single := chars.length == 1
  if chars.contains '\x27' && chars.zipIdx.all (fun c => isTame c.2 single c.1) then
    "\"" ++ s ++ "\""
  else String.ofList ('\x27' :: inSingleQuotes false chars)

/-- The text as it is if it is a simple word without a colon, and otherwise as a shell could read
it. -/
def path (s : String) : String :=
  if needsQuotes s.toList || s.toList.contains ':' then forShell s else s

/-- The text as it is if it is a simple word, and otherwise as a shell could read it. -/
def word (s : String) : String :=
  if needsQuotes s.toList then forShell s else s

end AdapterReport.Quoting
