import AdapterReport.Json.Draft
import AdapterReport.Json.Value

/-!
# Readers of JSON

A `Reader α` turns a draft into an `α` or reports the first fault that it meets from left to right.
Records are read by their `RecordField`s from an object, or from an array in the order of the
fields; members with other names are passed over. `read` reads a whole text.
-/

namespace AdapterReport.Json

/-- What makes an `α` of a draft, or says why there is none. -/
abbrev Reader (α : Type) := Draft → Except Fault α

namespace Reader

/-- What a reader reports about a value of another kind than it wants: the value itself has to be
sound first. -/
def refuse {α : Type} : Draft → Except Fault α
  | .number scan => match scan.value with
    | .error fault => .error fault
    | .ok _ => .error .mismatched
  | .text scan => match scan.text with
    | .error fault => .error fault
    | .ok _ => .error .mismatched
  | .missing => .error .ended
  | .garbled fault => .error fault
  | .null | .bool _ | .array _ _ | .object _ _ => .error .mismatched

/-! ## Single values -/

/-- Reads null. -/
def null : Reader Unit
  | .null => .ok ()
  | d => refuse d

/-- Reads `true` or `false`. -/
def bool : Reader Bool
  | .bool b => .ok b
  | d => refuse d

/-- Reads a text. -/
def text : Reader String
  | .text scan => scan.text
  | d => refuse d

/-- Reads an integer that `ofInt?` accepts. -/
def integer {α : Type} (ofInt? : Int → Option α) : Reader α
  | .number scan => do
    match ← scan.value with
    | .real => .error .mismatched
    | .int n => match ofInt? n with
      | some a => .ok a
      | none => .error .mismatched
  | d => refuse d

/-- Reads null as nothing and everything else as `read` does. -/
def nullable {α : Type} (read : Reader α) : Reader (Option α)
  | .null => .ok none
  | d => (read d).map some

/-- Reads the name of a member. -/
def name : Name → Except Fault String
  | .text scan => scan.text
  | .misplaced => .error .malformed
  | .missing => .error .ended

/-- Reads the name of a variant: a string, or an object whose only member has that name and the
value null. -/
def variant {α : Type} (ofName? : String → Option α) : Reader α
  | .text scan => do
    match ofName? (← scan.text) with
    | some a => .ok a
    | none => .error .mismatched
  | .object ((n, value) :: more) cut => do
    match ofName? (← name n) with
    | none => .error .mismatched
    | some a =>
      null value
      if !more.isEmpty then .error .malformed
      Draft.pass cut
      .ok a
  | .missing => .error .ended
  | _ => .error .malformed

/-! ## Lists and maps -/

/-- Reads items one after the other. -/
def items {α : Type} (read : Reader α) (cut : Option Fault) : List Draft → Except Fault (List α)
  | [] => do Draft.pass cut; return []
  | d :: rest => do return (← read d) :: (← items read cut rest)

/-- Reads an array of any length. -/
def list {α : Type} (read : Reader α) : Reader (List α)
  | .array ds cut => items read cut ds
  | d => refuse d

/-- Reads members one after the other. -/
def members {α : Type} (read : Reader α) (cut : Option Fault) :
    List (Name × Draft) → Except Fault (List (String × α))
  | [] => do Draft.pass cut; return []
  | (n, d) :: rest => do
    let key ← name n
    let value ← read d
    return (key, value) :: (← members read cut rest)

/-- Reads an object with any names. -/
def map {α : Type} (read : Reader α) : Reader (List (String × α))
  | .object ms cut => members read cut ms
  | d => refuse d

/-! ## Records -/

/-- Where a field may be left out. -/
inductive Presence where
  /-- Nowhere. -/
  | required
  /-- In an object, where it is read as null. -/
  | nullable
  /-- In an object, and at the end of an array. -/
  | defaulted
  deriving DecidableEq

/-- A field of the record type `σ`. -/
structure RecordField (σ : Type) where
  name : String
  presence : Presence
  /-- Reads the field into a record that has not got it yet. -/
  store : Draft → σ → Except Fault σ

/-- The field that `read` reads and `set` sets. -/
def RecordField.of {σ α : Type} (presence : Presence) (name : String) (read : Reader α)
    (set : α → σ → σ) : RecordField σ :=
  ⟨name, presence, fun d s => (read d).map (set · s)⟩

/-- Reads the fields of an object into `s`; `seen` are the names of those already read. -/
def fromMembers {σ : Type} (fields : List (RecordField σ)) (cut : Option Fault) :
    List (Name × Draft) → List String → σ → Except Fault σ
  | [], seen, s => do
    Draft.pass cut
    if fields.all fun f => f.presence != .required || seen.contains f.name then return s
    else .error .mismatched
  | (n, d) :: rest, seen, s => do
    let key ← name n
    match fields.find? (·.name == key) with
    | none =>
      d.skip
      fromMembers fields cut rest seen s
    | some field =>
      if seen.contains key then .error .mismatched
      fromMembers fields cut rest (key :: seen) (← field.store d s)

/-- Reads the fields of an array into `s`. -/
def fromItems {σ : Type} (cut : Option Fault) :
    List (RecordField σ) → List Draft → σ → Except Fault σ
  | [], [], s => do Draft.pass cut; return s
  | [], _ :: _, _ => .error .malformed
  | field :: fields, [], s => do
    Draft.pass cut
    if field.presence = .defaulted then fromItems cut fields [] s else .error .mismatched
  | field :: fields, d :: rest, s => do
    fromItems cut fields rest (← field.store d s)

/-- Reads a record, starting from the value of its fields that may be left out. -/
def record {σ : Type} (fields : List (RecordField σ)) (start : σ) : Reader σ
  | .object ms cut => fromMembers fields cut ms [] start
  | .array ds cut => fromItems cut fields ds start
  | d => refuse d

/-! ## Values of any kind -/

mutual

/-- Accepts any value that is sound throughout and has less than `depth` brackets inside each
other. -/
def sound (depth : Nat) : Draft → Except Fault Unit
  | .null | .bool _ => .ok ()
  | .number scan => scan.value.map fun _ => ()
  | .text scan => scan.text.map fun _ => ()
  | .array ds cut =>
    if depth ≤ 1 then .error .malformed
    else do soundItems (depth - 1) ds; Draft.pass cut
  | .object ms cut =>
    if depth ≤ 1 then .error .malformed
    else do soundMembers (depth - 1) ms; Draft.pass cut
  | .missing => .error .ended
  | .garbled fault => .error fault

/-- Accepts items that are sound. -/
def soundItems (depth : Nat) : List Draft → Except Fault Unit
  | [] => .ok ()
  | d :: rest => do sound depth d; soundItems depth rest

/-- Accepts members that are sound. -/
def soundMembers (depth : Nat) : List (Name × Draft) → Except Fault Unit
  | [] => .ok ()
  | (n, d) :: rest => do
    let _ ← name n
    sound depth d
    soundMembers depth rest

end

mutual

/-- Reads any value whose numbers are integers. -/
def value : Draft → Except Fault Json
  | .null => .ok .null
  | .bool b => .ok (.bool b)
  | .number scan => do
    match ← scan.value with
    | .int n => return .number n
    | .real => .error .mismatched
  | .text scan => scan.text.map .text
  | .array ds cut => do
    let vs ← values ds
    Draft.pass cut
    return .array vs
  | .object ms cut => do
    let vs ← valueMembers ms
    Draft.pass cut
    return .object (vs.foldl (fun m kv => insertMember m kv.1 kv.2) [])
  | .missing => .error .ended
  | .garbled fault => .error fault

/-- Reads items of any kind. -/
def values : List Draft → Except Fault (List Json)
  | [] => .ok []
  | d :: rest => do return (← value d) :: (← values rest)

/-- Reads members of any kind. -/
def valueMembers : List (Name × Draft) → Except Fault (List (String × Json))
  | [] => .ok []
  | (n, d) :: rest => do
    let key ← name n
    let v ← value d
    return (key, v) :: (← valueMembers rest)

end

end Reader

/-- Reads a whole text, behind whose value nothing but space may follow. -/
def read {α : Type} (reader : Reader α) (text : String) : Except Fault α := do
  let (draft, trailing) := Draft.ofTokens (tokens text)
  let a ← reader draft
  if trailing then .error .malformed else .ok a

end AdapterReport.Json
