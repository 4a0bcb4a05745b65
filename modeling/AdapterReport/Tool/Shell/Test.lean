import AdapterReport.Tool.Shell.Session

/-!
# Tests

The conditions of `test` and `[`: of texts, numbers and files, and what is made of them by "not",
"and" and "or". `Sh.test` says whether a condition holds; a reading goes from words to words.
-/

namespace AdapterReport.Shell

/-- What a word means in a condition. -/
inductive ConditionToken where
  | operand
  | unary (sign : String)
  | binary (sign : String)
  | both
  | either
  | negation
  | opening
  | closing
  | finish
  deriving DecidableEq

namespace ConditionToken

/-- The operators in front of one operand. -/
def unaryOperators : List String :=
  ["-r", "-w", "-x", "-e", "-f", "-d", "-c", "-b", "-p", "-u", "-g", "-k", "-s", "-t", "-z", "-n",
    "-O", "-G", "-L", "-h", "-S"]

/-- The operators between two operands. -/
def binaryOperators : List String :=
  ["=", "!=", "<", ">", "-eq", "-ne", "-ge", "-gt", "-le", "-lt", "-nt", "-ot", "-ef"]

/-- Whether an operator in front of one operand is an operand itself, given what is behind it. -/
def isOperand : List String → Bool
  | [] => true
  | [_] => false
  | next :: _ => binaryOperators.contains next

/-- What the first of some words means. -/
def first : List String → ConditionToken
  | [] => finish
  | word :: rest =>
    if unaryOperators.contains word then if isOperand rest then operand else unary word
    else if binaryOperators.contains word then binary word
    else
      match word with
      | "-a" => both
      | "-o" => either
      | "!" => negation
      | "(" => if rest.isEmpty then operand else opening
      | ")" => closing
      | _ => operand

end ConditionToken

namespace Sh

/-! ## Simple conditions -/

/-- Whether a condition of a file holds. -/
def testFile (sign path : String) : Sh Bool := do
  let follows := sign != "-L" && sign != "-h"
  match ← ask (.status (Text.ByteText.toBytes path) follows) with
  | .error _ => return false
  | .ok status =>
    return match sign with
      | "-f" => status.kind == .regular
      | "-d" => status.kind == .directory
      | "-c" => status.kind == .device
      | "-p" => status.kind == .pipe
      | "-L" | "-h" => status.kind == .link
      | "-s" => 0 < status.size
      | "-x" => status.isExecutable
      | "-k" => status.place.getLast?.any fun name => Text.ByteText.ofBytes name == "tmp"
      | "-b" | "-S" | "-u" | "-g" => false
      | _ => true

/-- Whether a condition of one operand holds. -/
def testOne (sign operand : String) : Sh Bool := do
  match sign with
  | "-z" => return operand.isEmpty
  | "-n" => return !operand.isEmpty
  | "-t" => do
    let _ ← longNumber operand
    return false
  | _ => testFile sign operand

/-- Whether two paths lead to the same file. -/
def testSame (a b : String) : Sh Bool := do
  let first ← ask (.status (Text.ByteText.toBytes a) true)
  let second ← ask (.status (Text.ByteText.toBytes b) true)
  match first, second with
  | .ok x, .ok y => return x.place == y.place
  | _, _ => return false

/-- Whether a condition of two operands holds. -/
def testTwo (sign a b : String) : Sh Bool := do
  let compare (holds : Int → Int → Bool) : Sh Bool := do
    let x ← longNumber a
    let y ← longNumber b
    return holds x y
  match sign with
  | "=" => return a == b
  | "!=" => return a != b
  | "<" => return decide (a < b)
  | ">" => return decide (b < a)
  | "-eq" => compare (· == ·)
  | "-ne" => compare (· != ·)
  | "-ge" => compare fun x y => decide (y ≤ x)
  | "-gt" => compare fun x y => decide (y < x)
  | "-le" => compare fun x y => decide (x ≤ y)
  | "-lt" => compare fun x y => decide (x < y)
  | "-ef" => testSame a b
  | _ => return false

/-! ## Conditions -/

mutual

/-- Reads conditions of which one must hold. The word at which the reading stops comes first in what
is left. The number bounds the depth. -/
def testEither : Nat → ConditionToken → List String → Sh (Bool × List String)
  | 0, _, words => return (false, words)
  | n + 1, token, words => do
    let (a, words) ← testBoth n token words
    if ConditionToken.first (words.drop 1) == .either then
      let words := words.drop 2
      let (b, words) ← testEither n (.first words) words
      return (a || b, words)
    else return (a, words)

/-- Reads conditions of which all must hold. -/
def testBoth : Nat → ConditionToken → List String → Sh (Bool × List String)
  | 0, _, words => return (false, words)
  | n + 1, token, words => do
    let (a, words) ← testNegated n token words
    if ConditionToken.first (words.drop 1) == .both then
      let words := words.drop 2
      let (b, words) ← testBoth n (.first words) words
      return (a && b, words)
    else return (a, words)

/-- Reads a condition that may be negated. -/
def testNegated : Nat → ConditionToken → List String → Sh (Bool × List String)
  | 0, _, words => return (false, words)
  | n + 1, token, words => do
    if token != .negation then testPrimary n token words
    else
      let next := words.drop 1
      let (holds, words) ← testNegated n (.first next) (if next.isEmpty then words else next)
      return (!holds, words)

/-- Reads a simple condition, or one in parentheses. -/
def testPrimary : Nat → ConditionToken → List String → Sh (Bool × List String)
  | 0, _, words => return (false, words)
  | n + 1, token, words => do
    match token with
    | .finish => return (false, words)
    | .opening => do
      let inside := words.drop 1
      let first := ConditionToken.first inside
      if first == .closing then return (false, inside)
      let (holds, words) ← testEither n first inside
      let behind := words.drop 1
      if ConditionToken.first behind != .closing then fail "closing paren expected"
      return (holds, behind)
    | .unary sign =>
      match words.drop 1 with
      | [] => fail (sign ++ ": argument expected")
      | operand :: rest => return (← testOne sign operand, operand :: rest)
    | _ =>
      match words with
      | a :: sign :: rest =>
        match ConditionToken.first (sign :: rest), rest with
        | .binary _, [] => fail (sign ++ ": argument expected")
        | .binary _, b :: more => return (← testTwo sign a b, b :: more)
        | _, _ => return (!a.isEmpty, words)
      | [a] => return (!a.isEmpty, words)
      | [] => return (false, words)

end

/-- Whether a condition holds. A negation in front of a few words counts for all of them. The number
bounds the negations. -/
def testWords : Nat → Bool → List String → Sh Bool
  | 0, isNegated, _ => return isNegated
  | n + 1, isNegated, words => do
    let whole (token : ConditionToken) (words : List String) : Sh Bool := do
      let (holds, rest) ← testEither (10 * words.length + 10) token words
      match rest with
      | a :: _ :: _ => fail ((if a.isEmpty then "" else a ++ ": ") ++ "unexpected operator")
      | _ => return holds != isNegated
    let behindFew : Sh Bool :=
      if words.head? == some "(" && words.getLast? == some ")" then
        let inside := words.tail.dropLast
        whole (.first inside) inside
      else if words.head? == some "!" then testWords n true words.tail
      else whole (.first words) words
    match words with
    | [] => return isNegated
    | [_, sign, _] =>
      if ConditionToken.binaryOperators.contains sign then whole .operand words else behindFew
    | [_, _, _, _] => behindFew
    | _ => whole (.first words) words

/-- Whether the condition of a command of this name holds. -/
def test (name : String) (words : List String) : Sh Bool := do
  let words ←
    if name == "[" then
      if words.getLast? == some "]" then pure words.dropLast
      else fail "missing ]"
    else pure words
  testWords (words.length + 2) false words

end Sh

end AdapterReport.Shell
