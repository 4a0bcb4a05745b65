import AdapterReport.Tool.Utility.CharacterSet
import AdapterReport.Tool.Utility.Options

/-!
# Tr

`tr` copies its input and replaces bytes by others, leaves bytes out, or writes the same byte only
once in a row.
-/

namespace AdapterReport.Tr

open Utility CharacterSet

/-- What is asked for by options. -/
structure Style where
  complements : Bool
  deletes : Bool
  squeezes : Bool
  /-- Whether the first set is cut to the length of the second one. -/
  truncates : Bool

/-- The style with what a letter asks for. -/
def Style.adding (style : Style) (letter : Char) : Style :=
  match letter with
  | 'c' | 'C' => { style with complements := true }
  | 'd' => { style with deletes := true }
  | 's' => { style with squeezes := true }
  | 't' => { style with truncates := true }
  | _ => style

/-- The options. -/
def options : OptionTable where
  flags := "AcCdst".toList ++ commonFlags
  valued := []
  long := [⟨"complement", 'c'⟩, ⟨"delete", 'd'⟩, ⟨"squeeze-repeats", 's'⟩, ⟨"truncate-set1", 't'⟩]
    ++ commonNames
  permutes := false

/-! ## What two sets must agree in -/

/-- The number of the repetitions that have no number. -/
def openRepetitions (set : CharacterSet) : Nat :=
  set.countP fun i => i matches .repeated _ 0

/-- Whether a set has classes. -/
def hasClass (set : CharacterSet) : Bool :=
  set.any fun i => i matches .ofClass _

/-- Whether a set has classes other than those of the letters of one case. -/
def hasRestrictedClass (set : CharacterSet) : Bool :=
  set.any fun
    | .ofClass k => k != .upper && k != .lower
    | _ => false

/-- The set whose repetition without a number has as many bytes as it takes. -/
def filled (set : CharacterSet) (size : Nat) : CharacterSet :=
  if size < length set || openRepetitions set != 1 then set
  else
    set.filterMap fun
      | .repeated c 0 => if size == length set then none else some (.repeated c (size - length set))
      | i => some i

/-- What is behind the part to which the first byte belongs. -/
def skipped : List Member → List Member
  | [] => []
  | _ :: rest => rest.dropWhile (!·.isFirst)

/-- How many bytes less two sets count because the letters of one case stand in both of them at the
same place; `none` if they stand in the second one where no such class begins in the first one. The
number bounds the steps. -/
def aligned : Nat → List Member → List Member → Option Nat
  | 0, _, _ => some 0
  | n + 1, first, second =>
    let begins (u : Option Member) : Bool := u.any fun u => u.isFirst && u.ofCase.isSome
    if begins second.head? && !begins first.head? then none
    else
      match first, second with
      | [], _ | _, [] => some 0
      | _ :: first', u :: second' =>
        if u.ofCase.isSome then (aligned n (skipped first) (skipped second)).map (· + 25)
        else aligned n first' second'

/-- The byte that a part ends with, with which a set can be made longer. -/
def lastOf : SetItem → Option Char
  | .one c | .range _ c | .repeated c _ | .equivalent c => some c
  | .ofClass _ => none

/-- The second set for a translation, as long as the first one. -/
def extended (style : Style) (first second : CharacterSet) (sizeOfFirst : Nat) :
    Except String CharacterSet := do
  let less ←
    if style.complements || !hasClass second then pure 0
    else
      let (a, b) := (members first, members second)
      match aligned (a.length + b.length + 1) a b with
      | some n => pure n
      | none => throw "misaligned [:upper:] and/or [:lower:] construct"
  let missing := (sizeOfFirst - less) - (length second - less)
  if missing == 0 || style.truncates then return second
  match second.getLast? with
  | none => throw "when not truncating set1, string2 must be non-empty"
  | some i =>
    if length second == 0 then throw "when not truncating set1, string2 must be non-empty"
    match lastOf i with
    | some c => return second ++ [.repeated c missing]
    | none =>
      throw ("when translating with string1 longer than string2,\n"
        ++ "the latter string must not end with a character class")

/-- The second set for a translation. -/
def target (style : Style) (first second : CharacterSet) (sizeOfFirst : Nat) :
    Except String CharacterSet := do
  if second.any (· matches .equivalent _) then
    throw "[=c=] expressions may not appear in string2 when translating"
  if hasRestrictedClass second then
    throw ("when translating, the only character classes that may appear in\n"
      ++ "string2 are 'upper' and 'lower'")
  let second ← extended style first second sizeOfFirst
  let isUniform := match second.flatMap chars with
    | [] => false
    | c :: rest => rest.all (· == c)
  if style.complements && hasClass first && !(length second == sizeOfFirst && isUniform) then
    throw ("when translating with complemented character classes,\n"
      ++ "string2 must map all characters in the domain to one")
  return second

/-- The sets as they are used, or what is wrong with them. -/
def checked (style : Style) (translates : Bool) (first : CharacterSet)
    (second : Option CharacterSet) : Except String (CharacterSet × CharacterSet) := do
  let sizeOfFirst :=
    if style.complements then ((table first true).toList.filter id).length else length first
  if mostRepetitions < length first then throw "too many characters in set"
  if 0 < openRepetitions first then
    throw "the [c*] repeat construct may not appear in string1"
  match second with
  | none => return (first, [])
  | some second =>
    if mostRepetitions < length second then throw "too many characters in set"
    if 1 < openRepetitions second then
      throw "only one [c*] repeat construct may appear in string2"
    if translates then return (first, ← target style first (filled second sizeOfFirst) sizeOfFirst)
    else if 0 < openRepetitions second then
      throw "the [c*] construct may appear in string2 only when translating"
    else return (first, second)

/-! ## Replacing -/

/-- The pairs of a byte and the one that takes its place. The number bounds the steps. -/
def pairs : Nat → List Member → List Member → List (Char × Char)
  | 0, _, _ => []
  | n + 1, first, second =>
    match first, second with
    | u :: first', v :: second' =>
      let now :=
        match u.ofCase, v.ofCase with
        | some .lower, some .upper =>
          (allBytes.filter Char.isLower).map fun c => (c, c.toUpper)
        | some .upper, some .lower =>
          (allBytes.filter Char.isUpper).map fun c => (c, c.toLower)
        | _, _ => [(u.char, v.char)]
      if v.ofCase.isSome then now ++ pairs n (skipped first) (skipped second)
      else now ++ pairs n first' second'
    | _, _ => []

/-- What each byte is replaced by. -/
def replacements (style : Style) (first second : CharacterSet) : Array UInt8 :=
  let (a, b) := (members first, members second)
  let found :=
    if style.complements then
      (allBytes.filter fun c => !a.any (·.char == c)).zip (b.map (·.char))
    else pairs (a.length + 1) a b
  let same := (List.range 256).map UInt8.ofNat
  found.foldl (fun bytes (c, d) => bytes.set! c.toNat (Text.ByteText.byteOf d)) same.toArray

/-- What is done with every byte. -/
structure Rule where
  deleted : Array Bool
  replaced : Array UInt8
  /-- The bytes that are written once in a row. -/
  squeezed : Array Bool

/-- The rule that two sets make. -/
def rule (style : Style) (translates : Bool) (first second : CharacterSet) (single : Bool) : Rule :=
  let nothing := table [] false
  { deleted := if style.deletes then table first style.complements else nothing
    replaced := if translates then replacements style first second else replacements style [] []
    squeezed :=
      if !style.squeezes then nothing
      else if single then table first style.complements else table second false }

/-- Copies a piece; what was written last goes on from one piece to the next one. The bytes written
come in reverse order. -/
def Rule.apply (r : Rule) (last : Option UInt8) (piece : List UInt8) :
    Option UInt8 × List UInt8 :=
  piece.foldl
    (fun (last, written) byte =>
      if r.deleted.getD byte.toNat false then (last, written)
      else
        let byte := r.replaced.getD byte.toNat byte
        if last == some byte && r.squeezed.getD byte.toNat false then (last, written)
        else (some byte, byte :: written))
    (last, [])

/-- Copies the input. -/
def copy (name : String) (r : Rule) : Process :=
  (readPieces Task.input 8192
    (fun (last, pending) piece => do
      let (last, written) := r.apply last piece
      match ← writeBlocks (pending ++ written.reverse) with
      | .ok pending => return .ok (last, pending)
      | .error e => do
        Task.say (name ++ ": write error: " ++ e.message ++ "\n")
        Task.exit 1)
    Task.maxPieces (none, ([] : List UInt8)) : Task _) fun ((_, pending), failure) =>
      match failure with
      | none => finish name pending 0
      | some e =>
        (complain pending (name ++ ": read error: " ++ e.message ++ "\n")) fun _ => .exit 1

/-! ## The utility -/

/-- What is wrong with the number of operands. -/
def operandFault (style : Style) (operands : List String) : Option String :=
  let least := if style.deletes == style.squeezes then 2 else 1
  let most := if style.deletes && !style.squeezes then 1 else 2
  match operands, operands[most]? with
  | [], _ => some "missing operand"
  | [one], _ =>
    if least ≤ 1 then none
    else some ("missing operand after " ++ Quoting.plain one ++ "\n"
      ++ (if style.squeezes then
          "Two strings must be given when both deleting and squeezing repeats."
        else "Two strings must be given when translating."))
  | _, some extra =>
    some ("extra operand " ++ Quoting.plain extra
      ++ (if operands.length == 2 then
          "\nOnly one string may be given when deleting without squeezing repeats."
        else ""))
  | _, none => none

/-- Reads the sets, saying what there is to be said about them. -/
def sets (name : String) : List String → Task (Option (List CharacterSet))
  | [] => pure (some [])
  | text :: rest => do
    let (set, warnings) := CharacterSet.read text
    Task.say (String.join (warnings.map fun w => name ++ ": " ++ w ++ "\n"))
    match set with
    | .error e => do
      Task.say (name ++ ": " ++ e.message ++ "\n")
      return none
    | .ok set => return (← sets name rest).map (set :: ·)

/-- Replaces bytes, leaves them out, or writes them once in a row. -/
def utility : Utility := fun name arguments =>
  let given := options.read arguments
  let style := given.options.foldl (fun style o => style.adding o.letter)
    ⟨false, false, false, false⟩
  match given.fault, operandFault style given.operands with
  | some e, _ => misused name e
  | none, fault =>
    if given.asksToTell then .exit 0
    else match fault with
    | some e => misused name e
    | none =>
      let translates := given.operands.length == 2 && !style.deletes
      (sets name given.operands) fun
        | some (first :: more) =>
          match checked style translates first more.head? with
          | .error e => (Task.say (name ++ ": " ++ e ++ "\n")) fun _ => .exit 1
          | .ok (first, second) => copy name (rule style translates first second more.isEmpty)
        | _ => .exit 1

end AdapterReport.Tr
