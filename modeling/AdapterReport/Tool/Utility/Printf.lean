import AdapterReport.Text.Floating
import AdapterReport.Tool.Utility.Basic
import AdapterReport.Tool.Utility.Escape

/-!
# Formatted output

`printf` writes its format; a conversion in it is replaced by the next argument. The format is used
again until no argument is left; where arguments are missing there is an empty text or zero. The
shell's own `printf` and the one outside of it differ in a few points, which a `Dialect` names.
-/

namespace AdapterReport.Printf

open Text (Floating)

/-- What is wrong about an argument that is no number. -/
inductive NumberFault where
  /-- It does not begin with a number. -/
  | notNumeric
  /-- It goes on behind its number. -/
  | notConverted
  /-- Its number is too great or too small. -/
  | outOfRange
  deriving DecidableEq

/-- The two commands that know a format: the shell's own one and the one outside of it. -/
structure Dialect where
  /-- The escapes of the format. -/
  format : EscapeStyle
  /-- The escapes of an argument converted by `%b`. -/
  argument : EscapeStyle
  /-- The format of numbers with a point. -/
  binary : Floating.Binary
  /-- How many bits of such a number stand before its point in hexadecimal digits. -/
  leadingBits : Nat
  /-- What is said about an argument that is no number. -/
  complaint : NumberFault → String → String
  /-- Whether the command is the one outside of the shell, which checks more. -/
  isStrict : Bool

/-- The shell's own command. -/
def builtin : Dialect where
  format := ⟨false, false, false, false⟩
  argument := ⟨true, false, true, false⟩
  binary := Floating.double
  leadingBits := 1
  complaint fault s :=
    match fault with
    | .notNumeric => s ++ ": expected numeric value"
    | .notConverted => s ++ ": not completely converted"
    | .outOfRange => s ++ ": Numerical result out of range"
  isStrict := false

/-- The command outside of the shell. -/
def external : Dialect where
  format := ⟨false, true, true, true⟩
  argument := ⟨true, true, true, true⟩
  binary := Floating.extended
  leadingBits := 4
  complaint fault s :=
    match fault with
    | .notNumeric => Quoting.plain s ++ ": expected a numeric value"
    | .notConverted => Quoting.plain s ++ ": value not completely converted"
    | .outOfRange => Quoting.plain s ++ ": Numerical result out of range"
  isStrict := true

/-! ## Formats -/

/-- A width or a number of places: as the format has it, or from an argument. -/
inductive Amount where
  | fixed (n : Nat)
  | argument
  deriving DecidableEq

/-- One conversion of a format. -/
structure Conversion where
  flags : List Char
  width : Option Amount
  precision : Option Amount
  /-- The letter of the conversion; `none` at the end of the format. -/
  kind : Option Char
  /-- How the conversion stands in the format. -/
  source : String

/-- A part of a format. -/
inductive Directive where
  | text (bytes : List Char) (reason : EscapeEnd)
  | convert (c : Conversion)

/-- Reads digits or a star. -/
def amount (s : List Char) : Option Amount × List Char :=
  match s with
  | '*' :: rest => (some .argument, rest)
  | _ =>
    let digits := s.takeWhile Char.isDigit
    (if digits.isEmpty then none else some (.fixed (Text.natOfDigits digits)),
      s.drop digits.length)

/-- Reads a conversion behind its percent sign. -/
def conversion (d : Dialect) (s : List Char) : Conversion × List Char :=
  let known := if d.isStrict then "#-+ 0'I" else "#-+ 0"
  let flags := s.takeWhile (known.toList.contains ·)
  let (width, behind) := amount (s.drop flags.length)
  let (precision, behind) :=
    match behind with
    | '.' :: rest =>
      let (places, rest) := amount rest
      (some (places.getD (.fixed 0)), rest)
    | _ => (none, behind)
  let behind :=
    if d.isStrict then behind.dropWhile ("lLhjtz".toList.contains ·) else behind
  let source := String.ofList ('%' :: s.take (s.length - behind.length + 1))
  (⟨flags, width, precision, behind.head?, source⟩, behind.tail)

/-- How many characters stand before the next conversion. Where `skips` is set, the character behind
a backslash never begins one. -/
def textLength (skips : Bool) : Bool → List Char → Nat
  | _, [] => 0
  | true, _ :: s => 1 + textLength skips false s
  | false, c :: s => if c == '%' then 0 else 1 + textLength skips (skips && c == '\\') s

/-- The parts of a format. The number bounds the steps; each one reads a character at least. -/
def directives (d : Dialect) : Nat → List Char → List Directive
  | 0, _ => []
  | _, [] => []
  | n + 1, '%' :: '%' :: s => .text ['%'] .complete :: directives d n s
  | n + 1, '%' :: s =>
    let (c, rest) := conversion d s
    .convert c :: directives d n rest
  | n + 1, c :: s =>
    let length := textLength d.isStrict false (c :: s)
    let (bytes, reason) := Escape.read d.format ((c :: s).take length)
    .text bytes reason :: directives d n ((c :: s).drop length)

/-- Whether a command knows a conversion with these flags and this precision. -/
def Dialect.knows (d : Dialect) (c : Conversion) : Bool :=
  match c.kind with
  | none => false
  | some kind =>
    if !d.isStrict then "diouxXaAeEfFgGcsb".toList.contains kind
    else if kind == 'b' || kind == 'q' then c.source.length == 2
    else
      "diouxXaAeEfFgGcs".toList.contains kind
        && !(c.flags.any ("'I".toList.contains ·) && "aAceEosxX".toList.contains kind)
        && !(c.flags.contains '#' && "cdisu".toList.contains kind)
        && !(c.flags.contains '0' && "cs".toList.contains kind)
        && !(c.precision.isSome && kind == 'c')

/-! ## Numbers -/

/-- A number with what is wrong about its argument. -/
structure Checked (α : Type) where
  value : α
  fault : Option NumberFault
  /-- What stands behind the character whose number was asked for. -/
  ignored : String

/-- What is wrong about an argument whose number was read up to `rest`. -/
def faultOf (d : Dialect) (argument rest : List Char) (isOutOfRange : Bool) :
    Option NumberFault :=
  if isOutOfRange && (d.isStrict || rest.isEmpty) then some .outOfRange
  else if rest.isEmpty then none
  else if rest.length == argument.length then some .notNumeric
  else some .notConverted

/-- The character behind a quote, and what is behind it. -/
def quoted? (d : Dialect) (s : List Char) : Option (Char × List Char) :=
  match s with
  | [q] => if (q == '\x27' || q == '"') && !d.isStrict then some ('\x00', []) else none
  | q :: c :: rest => if q == '\x27' || q == '"' then some (c, rest) else none
  | [] => none

/-- A whole number from an argument, with or without a sign. -/
def integer (d : Dialect) (hasSign : Bool) (argument : String) : Checked Int :=
  let s := argument.toList
  match quoted? d s with
  | some (c, rest) => ⟨c.toNat, none, String.ofList rest⟩
  | none =>
    match Text.Numeral.signed? Text.Numeral.anyBase? s with
    | none => ⟨0, faultOf d s s false, ""⟩
    | some r =>
      let value :=
        if hasSign then Text.Numeral.clamped r.value
        else if r.value.natAbs < UInt64.size then r.value % UInt64.size
        else UInt64.size - 1
      let isOutOfRange :=
        if hasSign then value != r.value else UInt64.size ≤ r.value.natAbs
      ⟨value, faultOf d s r.rest isOutOfRange, ""⟩

/-- A number with a point from an argument. -/
def floating (d : Dialect) (argument : String) : Checked Floating :=
  let s := argument.toList
  match quoted? d s with
  | some (c, rest) => ⟨.finite false ⟨c.toNat, 1⟩, none, String.ofList rest⟩
  | none =>
    match Floating.read? d.binary s with
    | none => ⟨.finite false ⟨0, 1⟩, faultOf d s s false, ""⟩
    | some r => ⟨r.value, faultOf d s r.rest r.isOutOfRange, ""⟩

/-! ## Conversions -/

/-- How a value is laid out. -/
structure Layout where
  flags : List Char
  width : Nat
  precision : Option Nat

namespace Layout

/-- Whether there is a flag. -/
def has (l : Layout) (flag : Char) : Bool := l.flags.contains flag

/-- Bytes filled up to the width. -/
def fill (l : Layout) (bytes : List Char) : List Char :=
  let spaces := List.replicate (l.width - bytes.length) ' '
  if l.has '-' then bytes ++ spaces else spaces ++ bytes

/-- The sign, the mark of the base and the digits of a number, filled up to the width. -/
def fillNumber (l : Layout) (pads : Bool) (mark digits : List Char) : List Char :=
  let zeros :=
    if pads && l.has '0' && !l.has '-' then l.width - (mark.length + digits.length) else 0
  l.fill (mark ++ List.replicate zeros '0' ++ digits)

/-- The sign of a number. -/
def sign (l : Layout) (isNegative : Bool) : List Char :=
  if isNegative then ['-'] else if l.has '+' then ['+'] else if l.has ' ' then [' '] else []

/-- A whole number. A number of digits may be asked for; no digit is enough for a zero. -/
def integer (l : Layout) (kind : Char) (value : Int) : List Char :=
  let n := value.natAbs
  let base := if kind == 'o' then 8 else if kind == 'x' || kind == 'X' then 16 else 10
  let digits := if n == 0 && l.precision == some 0 then [] else Nat.toDigits base n
  let digits := if kind == 'X' then digits.map Char.toUpper else digits
  let digits := List.replicate (l.precision.getD 0 - digits.length) '0' ++ digits
  let digits :=
    if kind == 'o' && l.has '#' && digits.head? != some '0' then '0' :: digits else digits
  let mark :=
    if kind == 'd' || kind == 'i' then l.sign (value < 0)
    else if l.has '#' && n != 0 && kind == 'x' then ['0', 'x']
    else if l.has '#' && n != 0 && kind == 'X' then ['0', 'X']
    else []
  l.fillNumber l.precision.isNone mark digits

/-- A number with a point. -/
def floating (l : Layout) (d : Dialect) (kind : Char) (value : Floating) : List Char :=
  let isUpper := kind.isUpper
  let cased (s : List Char) : List Char := if isUpper then s.map Char.toUpper else s
  match value with
  | .infinite isNegative => l.fill (l.sign isNegative ++ cased "inf".toList)
  | .notNumber isNegative => l.fill (l.sign isNegative ++ cased "nan".toList)
  | .finite isNegative size =>
    let places := min (l.precision.getD 6) Floating.farthest
    let long := Floating.lengthened (l.precision.getD 6 - places)
    let digits :=
      match kind.toLower with
      | 'f' => long 'e' (Floating.fixed size places (l.has '#'))
      | 'e' => long 'e' (Floating.scientific size places (l.has '#'))
      | 'g' =>
        let digits := Floating.general size places (l.has '#')
        if l.has '#' then long 'e' digits else digits
      | _ =>
        long 'p' (Floating.hexadecimal d.binary d.leadingBits size
          (l.precision.map (min · Floating.farthest)) (l.has '#'))
    if kind.toLower == 'a' then
      l.fillNumber true (l.sign isNegative ++ cased (digits.take 2)) (cased (digits.drop 2))
    else l.fillNumber true (l.sign isNegative) (cased digits)

/-- A text. -/
def text (l : Layout) (s : List Char) : List Char :=
  l.fill (match l.precision with
    | some most => s.take most
    | none => s)

end Layout

/-- Why nothing more is written. -/
inductive Stop where
  /-- An escape says so. -/
  | asked
  /-- Something is wrong about the format. -/
  | failed
  deriving DecidableEq

/-- What comes of a format. -/
inductive Said where
  | written (piece : List Char)
  | complaint (text : String)
  deriving DecidableEq

/-- What has been written, and which arguments are left. -/
structure Progress where
  /-- What was written and complained about, the last one first. -/
  said : List Said
  arguments : List String
  /-- Whether an argument was no number. -/
  isFaulty : Bool
  stop : Option Stop

namespace Progress

/-- Writes a piece. -/
def write (p : Progress) (piece : List Char) : Progress :=
  { p with said := .written piece :: p.said }

/-- Complains. -/
def complain (p : Progress) (text : String) : Progress :=
  { p with said := .complaint text :: p.said }

/-- Stops because of an error. -/
def fail (p : Progress) (complaint : String) : Progress :=
  { p.complain complaint with stop := some .failed }

/-- Takes the next argument. -/
def next (p : Progress) : String × Progress :=
  (p.arguments.headD "", { p with arguments := p.arguments.tail })

/-- Says what is wrong about an argument. -/
def check {α : Type} (d : Dialect) (p : Progress) (argument : String) (c : Checked α) : Progress :=
  let p :=
    match c.fault with
    | some fault => { p.complain (d.complaint fault argument) with isFaulty := true }
    | none => p
  if c.ignored.isEmpty || !d.isStrict then p
  else
    p.complain ("warning: " ++ c.ignored
      ++ ": character(s) following character constant have been ignored")

/-- Ends a piece as its escapes say. -/
def close (p : Progress) (reason : EscapeEnd) : Progress :=
  match reason with
  | .complete => p
  | .stopped => { p with stop := some .asked }
  | .noDigits => p.fail "missing hexadecimal number in escape"
  | .noCharacter n => p.fail ("invalid universal character name \\u" ++ Text.hexPadded 4 n)

/-- The greatest width. -/
def maxWidth : Nat := 2147483647

/-- How wide a conversion is at most, which is more than is kept of what a tool writes. -/
def widest : Nat := 2097152

/-- The number of 32 bits that is left of a greater one. -/
def shortened (n : Int) : Int := n.bmod UInt32.size

/-- Takes a width or a number of places from an argument if the format says so. -/
def amount (d : Dialect) (name : String) (least : Int) (p : Progress) (a : Option Amount) :
    Option Int × Progress :=
  match a with
  | none => (none, p)
  | some (.fixed n) => (some n, p)
  | some .argument =>
    let (argument, next) := p.next
    let c := integer d true argument
    let next := next.check d argument c
    if d.isStrict && ((maxWidth : Int) < c.value || c.value < least) then
      (none, next.fail ("invalid " ++ name ++ ": " ++ Quoting.plain argument))
    else (some (if d.isStrict then c.value else shortened c.value), next)

/-- Converts the next arguments. -/
def convert (d : Dialect) (p : Progress) (c : Conversion) : Progress :=
  let (width, p) := amount d "field width" (-(maxWidth : Int) - 1) p c.width
  let (precision, p) := amount d "precision" Text.Numeral.least p c.precision
  let flags := if width.any (· < 0) then '-' :: c.flags else c.flags
  let l : Layout :=
    { flags := flags
      width := min (width.getD 0).natAbs widest
      precision := (precision.filter (0 ≤ ·)).map (min ·.toNat widest) }
  if p.stop.isSome then p
  else if !d.knows c then
    if d.isStrict then p.fail (c.source ++ ": invalid conversion specification")
    else if c.kind.isNone then p.fail "missing format character"
    else p.fail (c.source ++ ": invalid directive")
  else
    let hasArgument := !p.arguments.isEmpty
    let (argument, p) := p.next
    match c.kind with
    | some 's' => p.write (l.text argument.toList)
    | some 'c' => p.write (l.fill [argument.toList.headD '\x00'])
    | some 'q' =>
      if hasArgument then p.write (l.text (Quoting.word argument).toList) else p
    | some 'b' =>
      let (bytes, reason) := Escape.read d.argument argument.toList
      (p.write (l.text bytes)).close reason
    | some kind =>
      if "diouxX".toList.contains kind then
        let value := integer d (kind == 'd' || kind == 'i') argument
        (p.check d argument value).write (l.integer kind value.value)
      else
        let value := floating d argument
        (p.check d argument value).write (l.floating d kind value.value)
    | none => p

/-- Writes a part of the format. -/
def step (d : Dialect) (p : Progress) (part : Directive) : Progress :=
  if p.stop.isSome then p
  else match part with
    | .text bytes reason => (p.write bytes).close reason
    | .convert c => p.convert d c

end Progress

/-- Writes the format again and again while arguments are left, as long as it takes some. Each time
takes one at least, so their number bounds the times. -/
def rounds (d : Dialect) (parts : List Directive) : Nat → Progress → Progress
  | 0, p => p
  | n + 1, p =>
    let done := parts.foldl (Progress.step d) p
    if done.stop.isSome || done.arguments.isEmpty
        || done.arguments.length == p.arguments.length then done
    else rounds d parts n done

/-- What has come of a format and its arguments. -/
structure Outcome where
  said : List Said
  status : UInt8

namespace Outcome

/-- All that was written. -/
def bytes (o : Outcome) : String :=
  String.ofList (o.said.flatMap fun
    | .written piece => piece
    | .complaint _ => [])

/-- All that was complained about. -/
def complaints (o : Outcome) : List String :=
  o.said.filterMap fun
    | .written _ => none
    | .complaint text => some text

end Outcome

/-- Writes a format with its arguments. -/
def run (d : Dialect) (format : String) (arguments : List String) : Outcome :=
  let parts := directives d (format.length + 1) format.toList
  let last := rounds d parts (arguments.length + 1) ⟨[], arguments, false, none⟩
  let excess :=
    if d.isStrict && last.stop.isNone then
      last.arguments.head?.toList.map fun a =>
        Said.complaint ("warning: ignoring excess arguments, starting with " ++ Quoting.plain a)
    else []
  let status :=
    if last.stop == some .failed then if d.isStrict then 1 else 2
    else if last.isFaulty && last.stop.isNone then 1
    else if last.isFaulty && !d.isStrict then 1
    else 0
  ⟨last.said.reverse ++ excess, status⟩

/-- Writes what has come of a format; a complaint comes behind all that was written before. Gives
what is still to be written. -/
def tell (name : String) (pending : List Char) : List Said → Task (List Char)
  | [] => pure pending
  | .written piece :: rest => tell name (pending ++ piece) rest
  | .complaint text :: rest => do
    Utility.complain (pending.map Text.ByteText.byteOf) (name ++ ": " ++ text ++ "\n")
    tell name [] rest

/-- The command outside of the shell. -/
def utility : Utility := fun name arguments =>
  let operands :=
    match arguments with
    | "--" :: rest => rest
    | _ => arguments
  match operands with
  | [] => Utility.misused name "missing operand"
  | format :: rest =>
    if arguments == ["--help"] || arguments == ["--version"] then .exit 0
    else
      let outcome := run external format rest
      (tell name [] outcome.said) fun pending =>
        Utility.finish name (pending.map Text.ByteText.byteOf) outcome.status

end AdapterReport.Printf
