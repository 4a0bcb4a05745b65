import AdapterReport.Text.Numeral

/-!
# Arithmetic

The value of an expression over whole numbers of 64 bits, with variables, and what it assigns to
them. `Arithmetic.evaluate` reads and evaluates at once, from left to right.
-/

namespace AdapterReport.Shell

/-- Why an expression has no value. -/
inductive ArithmeticFault where
  /-- Something else is expected at some place. -/
  | expecting (what : String)
  | divisionByZero
  /-- The value of a variable is no number. -/
  | notNumber (text : String)
  /-- A quotient is too great, which ends the process. -/
  | tooGreat
  deriving DecidableEq

/-- A token of an expression. -/
inductive ArithmeticToken where
  | number (n : Int)
  | name (s : String)
  | sign (s : String)
  /-- A byte that means nothing. -/
  | nonsense
  | finish
  deriving DecidableEq

namespace Arithmetic

/-- A number as 64 bits with a sign can hold it. -/
def wrapped (n : Int) : Int := n.bmod UInt64.size

/-- The signs of several bytes, the longest ones first. -/
def longSigns : List String :=
  ["<<=", ">>=", "<<", ">>", "<=", ">=", "==", "!=", "&&", "||", "+=", "-=", "*=", "/=", "%=",
    "&=", "|=", "^="]

/-- The signs of one byte. -/
def shortSigns : List Char := "=<>|&!()*/%+-^~?:".toList

/-- The first token of an expression, and what is behind it. -/
def token (s : List Char) : ArithmeticToken × List Char :=
  match s.dropWhile fun c => c == ' ' || c == '\t' || c == '\n' with
  | [] => (.finish, [])
  | c :: rest =>
    if c.isDigit then
      match Text.Numeral.anyBase? (c :: rest) with
      | some (n, rest) => (.number (Text.Numeral.clamped n), rest)
      | none => (.nonsense, c :: rest)
    else if c.isAlpha || c == '_' then
      let name := c :: rest.takeWhile fun c => c.isAlphanum || c == '_'
      (.name (String.ofList name), (c :: rest).drop name.length)
    else
      match longSigns.find? fun sign => sign.toList.isPrefixOf (c :: rest) with
      | some sign => (.sign sign, (c :: rest).drop sign.length)
      | none => if shortSigns.contains c then (.sign c.toString, rest) else (.nonsense, c :: rest)

/-- How tightly an operator binds, the tightest one first. -/
def rank? (sign : String) : Option Nat :=
  match sign with
  | "*" | "/" | "%" => some 0
  | "+" | "-" => some 1
  | "<<" | ">>" => some 2
  | "<" | "<=" | ">" | ">=" => some 3
  | "==" | "!=" => some 4
  | "&" => some 5
  | "^" => some 6
  | "|" => some 7
  | _ => none

/-- The operator that an assignment applies first; `none` if the sign assigns nothing. -/
def assigning? (sign : String) : Option (Option String) :=
  if sign == "=" then some none
  else if ["<<=", ">>=", "+=", "-=", "*=", "/=", "%=", "&=", "|=", "^="].contains sign then
    some (some (String.ofList sign.toList.dropLast))
  else none

/-- One if something holds, else zero. -/
def truth (b : Bool) : Int := if b then 1 else 0

/-- The bits of a number. -/
def bits (n : Int) : Nat := (n % UInt64.size).toNat

/-- What an operator makes of two numbers. -/
def apply (sign : String) (a b : Int) : Except ArithmeticFault Int :=
  match sign with
  | "*" => .ok (wrapped (a * b))
  | "/" | "%" =>
    if b == 0 then .error .divisionByZero
    else if a == Text.Numeral.least && b == -1 then .error .tooGreat
    else .ok (if sign == "/" then a.tdiv b else a.tmod b)
  | "+" => .ok (wrapped (a + b))
  | "-" => .ok (wrapped (a - b))
  | "<<" => .ok (wrapped (a * Nat.pow 2 (bits b % 64)))
  | ">>" => .ok (a / Nat.pow 2 (bits b % 64))
  | "<" => .ok (truth (a < b))
  | "<=" => .ok (truth (a ≤ b))
  | ">" => .ok (truth (b < a))
  | ">=" => .ok (truth (b ≤ a))
  | "==" => .ok (truth (a == b))
  | "!=" => .ok (truth (a != b))
  | "&" => .ok (wrapped (bits a &&& bits b))
  | "^" => .ok (wrapped (bits a ^^^ bits b))
  | _ => .ok (wrapped (bits a ||| bits b))

/-- The number that a value spells. Blanks may stand around it; nothing at all is zero. -/
def number (s : String) : Except ArithmeticFault Int :=
  match Text.Numeral.signed? Text.Numeral.anyBase? s.toList with
  | none => if s.toList.all Text.Numeral.isBlank then .ok 0 else .error (.notNumber s)
  | some r =>
    if r.rest.all Text.Numeral.isBlank && Text.Numeral.clamped r.value == r.value then .ok r.value
    else .error (.notNumber s)

/-- How far the reading of an expression has come. -/
structure Progress where
  /-- The next token. -/
  next : ArithmeticToken
  /-- What is behind the next token. -/
  rest : List Char
  /-- What was assigned, the last one first. -/
  assigned : List (String × Int)
  /-- The values of the variables that nothing was assigned to. -/
  value : String → Option String

/-- A step in reading and evaluating an expression. -/
abbrev Step := StateT Progress (Except ArithmeticFault)

/-- Goes on to the token behind the next one. -/
def advance : Step Unit :=
  modify fun p =>
    let (t, rest) := token p.rest
    { p with next := t, rest := rest }

/-- The value of a variable. -/
def valueOf (name : String) : Step Int := do
  let p ← get
  match p.assigned.lookup name with
  | some n => return n
  | none => number ((p.value name).getD "")

/-- Gives a variable a value. -/
def assign (name : String) (n : Int) : Step Unit :=
  modify fun p => { p with assigned := (name, n) :: p.assigned }

/-- Takes the next token if it is this sign. -/
def accept (sign : String) : Step Bool := do
  if (← get).next == .sign sign then
    advance
    return true
  else return false

mutual

/-- The value of an operand. Where `counts` is not set, nothing is evaluated. The number bounds the
depth. -/
def operand : Nat → Bool → Step Int
  | 0, _ => throw (.expecting "primary")
  | n + 1, counts => do
    match (← get).next with
    | .number value => do
      advance
      return value
    | .name name => do
      advance
      if counts then valueOf name else return 0
    | .sign "(" => do
      advance
      let value ← assignment n counts
      if !(← accept ")") then throw (.expecting "')'")
      return value
    | .sign "+" => do
      advance
      operand n counts
    | .sign "-" => do
      advance
      return wrapped (-(← operand n counts))
    | .sign "!" => do
      advance
      return truth ((← operand n counts) == 0)
    | .sign "~" => do
      advance
      return -(← operand n counts) - 1
    | _ => throw (.expecting "primary")

/-- The value of operands with operators between them that bind more tightly than `rank`. -/
def operation : Nat → Nat → Bool → Step Int
  | 0, _, _ => throw (.expecting "primary")
  | n + 1, rank, counts => do operationBehind n rank counts (← operand n counts)

/-- Goes on behind the first operand. -/
def operationBehind : Nat → Nat → Bool → Int → Step Int
  | 0, _, _, a => return a
  | n + 1, rank, counts, a => do
    match (← get).next with
    | .sign s =>
      match rank? s with
      | some r =>
        if r < rank then
          advance
          let b ← operation n r counts
          let value ← if counts then apply s a b else pure b
          operationBehind n rank counts value
        else return a
      | none => return a
    | _ => return a

/-- The value of operations of which all must hold. -/
def conjunction : Nat → Bool → Step Int
  | 0, _ => throw (.expecting "primary")
  | n + 1, counts => do
    let a ← operation n 8 counts
    if ← accept "&&" then
      let b ← conjunction n (counts && a != 0)
      return truth (a != 0 && b != 0)
    else return a

/-- The value of conjunctions of which one must hold. -/
def disjunction : Nat → Bool → Step Int
  | 0, _ => throw (.expecting "primary")
  | n + 1, counts => do
    let a ← conjunction n counts
    if ← accept "||" then
      let b ← disjunction n (counts && a == 0)
      return truth (a != 0 || b != 0)
    else return a

/-- The value of a choice between two values. -/
def choice : Nat → Bool → Step Int
  | 0, _ => throw (.expecting "primary")
  | n + 1, counts => do
    let a ← disjunction n counts
    if ← accept "?" then
      let b ← assignment n (counts && a != 0)
      if !(← accept ":") then throw (.expecting "':'")
      let c ← choice n (counts && a == 0)
      return if a != 0 then b else c
    else return a

/-- The value of an assignment, or of what else stands here. -/
def assignment : Nat → Bool → Step Int
  | 0, _ => throw (.expecting "primary")
  | n + 1, counts => do
    let before ← get
    match before.next with
    | .name name => do
      advance
      let kind := match (← get).next with
        | .sign s => assigning? s
        | _ => none
      match kind with
      | some operator => do
        advance
        let value ← assignment n counts
        if !counts then return value
        let value ← match operator with
          | some s => do apply s (← valueOf name) value
          | none => pure value
        assign name value
        return value
      | none => do
        set before
        choice n counts
    | _ => choice n counts

end

/-- What an expression comes to. -/
structure Outcome where
  value : Int
  /-- What it assigns, in order. -/
  assigned : List (String × Int)

/-- Evaluates an expression over variables with these values. -/
def evaluate (value : String → Option String) (s : String) : Except ArithmeticFault Outcome := do
  let (first, rest) := token s.toList
  let depth := 10 * (s.length + 1)
  let (n, p) ← (assignment depth true).run ⟨first, rest, [], value⟩
  if p.next == .finish then return ⟨n, p.assigned.reverse⟩
  else throw (.expecting "EOF")

end Arithmetic

end AdapterReport.Shell
