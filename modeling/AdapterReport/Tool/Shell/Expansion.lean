import AdapterReport.Tool.Shell.Arithmetic
import AdapterReport.Tool.Shell.Fields
import AdapterReport.Tool.Shell.Jobs

/-!
# Expansion

What a word becomes when its parameters, expressions and commands are replaced. `Sh.expand` puts the
units of one part after the other behind what there is; a `Manner` says what the word is for.
-/

namespace AdapterReport.Shell

/-- Where a tilde stands for a directory. -/
inductive Tildes where
  | nowhere
  /-- At the beginning. -/
  | atStart
  /-- In an assignment: behind the sign, unless that has been seen, and behind colons. -/
  | inAssignment (behindSign : Bool)
  deriving DecidableEq

/-- What a word is expanded for. -/
structure Manner where
  /-- Whether it is cut into fields. -/
  makesFields : Bool
  /-- Whether it counts later which bytes were quoted. -/
  keepsQuotes : Bool
  isQuoted : Bool
  /-- Whether it takes the place of a parameter, so that its own text is cut into fields too. -/
  isFallback : Bool
  tildes : Tildes
  deriving DecidableEq

namespace Manner

/-- For fields. -/
def fields : Manner := ⟨true, true, false, false, .atStart⟩

/-- For one text. -/
def text : Manner := ⟨false, false, false, false, .atStart⟩

/-- For an assignment. -/
def assignment : Manner := ⟨false, false, false, false, .inAssignment false⟩

/-- For a pattern. -/
def pattern : Manner := ⟨false, true, false, false, .atStart⟩

/-- For an expression. -/
def expression : Manner := ⟨false, false, false, false, .nowhere⟩

/-- For a text that counts as quoted as a whole. -/
def document : Manner := ⟨false, false, true, false, .nowhere⟩

/-- The same between quotes. -/
def quoted (m : Manner) : Manner := { m with isQuoted := true, tildes := .nowhere }

/-- The same for a word that takes the place of a parameter. -/
def fallback (m : Manner) : Manner :=
  let tildes : Tildes := match m.tildes with
    | .inAssignment _ => .inAssignment true
    | _ => if m.isQuoted then .nowhere else .atStart
  { m with isFallback := true, tildes := tildes }

end Manner

/-! ## Tildes -/

/-- The directory of a user; of the one who runs the shell if there is no name. -/
def Session.home? (s : Session) (user : String) : Option String :=
  if user.isEmpty then s.value? "HOME" else if user == "root" then some "/root" else none

/-- A piece of a text, and whether it stands for a tilde. -/
structure TildePiece where
  text : List Char
  isHome : Bool

namespace TildePiece

/-- A byte in front of the pieces behind it. -/
def cons (c : Char) : List TildePiece → List TildePiece
  | ⟨text, false⟩ :: rest => ⟨c :: text, false⟩ :: rest
  | pieces => ⟨[c], false⟩ :: pieces

/-- The pieces of a text. A tilde counts at the beginning if `here` is set, behind a colon if
`colons` is, and behind the next equals sign if `sign` is. `isLast` says that nothing follows the
text. The number bounds the bytes. -/
def all (home? : String → Option String) (colons isLast : Bool) :
    Nat → (here sign : Bool) → List Char → List TildePiece
  | 0, _, _, s => [⟨s, false⟩]
  | _, _, _, [] => []
  | n + 1, here, sign, c :: s =>
    let ends (d : Char) : Bool := d == '/' || (colons && d == ':')
    let user := s.takeWhile (!ends ·)
    let rest := s.drop user.length
    let found :=
      if here && c == '~' && (isLast || !rest.isEmpty) then home? (String.ofList user) else none
    match found with
    | some home => ⟨home.toList, true⟩ :: all home? colons isLast n false sign rest
    | none =>
      let isSign := sign && c == '='
      cons c (all home? colons isLast n (isSign || (colons && c == ':')) (sign && !isSign) s)

/-- The pieces of a text that stands at the beginning of a word if `isFirst` is set, and at its end
if `isLast` is. -/
def ofText (s : Session) (tildes : Tildes) (isFirst isLast : Bool) (text : String) :
    List TildePiece :=
  let pieces := all s.home?
  match tildes with
  | .nowhere => [⟨text.toList, false⟩]
  | .atStart => pieces false isLast text.length isFirst false text.toList
  | .inAssignment true => pieces true isLast text.length isFirst false text.toList
  | .inAssignment false => pieces true isLast text.length false true text.toList

end TildePiece

/-- The tildes behind a text. -/
def Tildes.behind (tildes : Tildes) (text : String) : Tildes :=
  match tildes with
  | .inAssignment false => .inAssignment (text.toList.contains '=')
  | _ => tildes

/-! ## Parameters -/

namespace Session

/-- The value of a parameter that has only one. -/
def single? (s : Session) (name : String) : Option String :=
  match name with
  | "$" => some (toString s.process)
  | "?" => some (toString s.status)
  | "#" => some (toString s.parameters.length)
  | "!" => s.beside.map fun id => toString id
  | "-" =>
    let set := optionTable.filter fun o => s.has o.1
    some (String.ofList (set.reverse.filterMap (·.2)))
  | _ =>
    if name.toList.all Char.isDigit then
      match name.toNat? with
      | some 0 => some s.name
      | some n => s.parameters[n - 1]?
      | none => none
    else s.value? name

/-- What stands between the positional parameters where all of them are asked for. -/
def border? (s : Session) (m : Manner) (name : String) : Option FieldUnit :=
  if m.makesFields && m.isQuoted && name == "@" then some .cut
  else
    match s.value? "IFS" with
    | none => some (.char ' ' m.isQuoted)
    | some separators =>
      if m.makesFields && !m.isQuoted then some .cut
      else separators.toList.head?.map fun c => .char c m.isQuoted

/-- The units of the value of a parameter. -/
def units? (s : Session) (m : Manner) (name : String) : Option (List FieldUnit) :=
  let units (text : String) : List FieldUnit := text.toList.map fun c => .char c m.isQuoted
  if name == "@" || name == "*" then
    some ((s.border? m name).toList.intercalate (s.parameters.map units))
  else (s.single? name).map units

end Session

namespace Sh

/-- Puts units behind what there is. -/
def putUnits (e : Expanded) (units : List FieldUnit) : Expanded := units.foldl Expanded.put e

/-- Makes a region of the value of a parameter. -/
def noteValue (m : Manner) (name : String) (start : Nat) (e : Expanded) : Sh Expanded := do
  let s ← get
  if !m.isQuoted then return e.addRegion start false
  else if name == "@" && !s.parameters.isEmpty then return e.addRegion start true
  else return e

/-- Leaves what the shell does because a parameter has no value, if this is an error. -/
def checkSet (name : String) (isSet : Bool) : Sh Unit := do
  if !isSet && (← get).has "nounset" then fail (name ++ ": parameter not set")

/-! ## Output of commands -/

/-- Reads bytes up to their end. -/
def readToEnd (descriptor : Nat) : Sh (List UInt8) := do
  let keep (pieces : List (List UInt8)) (piece : List UInt8) :
      Task (Except (List (List UInt8)) (List (List UInt8))) := pure (.ok (piece :: pieces))
  let (pieces, _) ← lift (Utility.readPieces descriptor 4096 keep Task.maxPieces [])
  return pieces.reverse.flatten

/-- What commands write, without zeros and without line feeds at the end. `run` does in a process of
its own what they say. -/
def outputOf (run : Command → Sh Unit) (commands : Option Command) : Sh String := do
  match commands with
  | none => return ""
  | some c => do
    let (source, sink) ← ask .pipe
    let job ← newJob
    start .waited job do
      let _ ← ask (.close source)
      if sink != Task.output then
        let _ ← ask (.duplicate sink Task.output)
        let _ ← ask (.close sink)
      run c
    let _ ← ask (.close sink)
    let bytes ← readToEnd source
    let _ ← ask (.close source)
    let status ← waitFor job
    modify fun s => { s with substituted := status }
    let kept := (bytes.filter (· != 0)).reverse.dropWhile (· == 0x0A)
    return Text.ByteText.ofBytes kept.reverse

/-! ## Expressions -/

/-- The value of an expression. -/
def arithmetic (text : String) : Sh String := do
  let s ← get
  let isWrong (what : String) : Sh String :=
    fail ("arithmetic expression: " ++ what ++ ": \"" ++ text ++ "\"")
  match Arithmetic.evaluate s.value? text with
  | .error (.expecting what) => isWrong ("expecting " ++ what)
  | .error .divisionByZero => isWrong "division by zero"
  | .error (.notNumber value) => fail ("Illegal number: " ++ value)
  | .error .tooGreat => do
    let (id, _) ← ask .identity
    let _ ← ask (.send 8 id)
    leave .error
  | .ok outcome => do
    outcome.assigned.forM fun (name, value) => assign name (toString value)
    return toString outcome.value

/-! ## Words -/

mutual

/-- Puts what parts become behind what there is. `isFirst` says that nothing stands before them. The
number bounds the depth. -/
def expand (run : Command → Sh Unit) :
    Nat → Manner → Bool → List Part → Expanded → Sh Expanded
  | 0, _, _, _, e => return e
  | _, _, _, [], e => return e
  | n + 1, m, isFirst, .text s :: rest, e => do
    let pieces := TildePiece.ofText (← get) m.tildes isFirst rest.isEmpty s
    let isRegion := m.isFallback && !m.isQuoted
    let put (e : Expanded) (p : TildePiece) : Expanded :=
      let after := e.putText (String.ofList p.text) (m.isQuoted || p.isHome)
      if isRegion && !p.isHome then after.addRegion e.size false else after
    expand run n { m with tildes := m.tildes.behind s } false rest (pieces.foldl put e)
  | n + 1, m, _, p :: rest, e => do
    let e ← expandPart run n m p e
    expand run n m false rest e

/-- Puts what a part becomes behind what there is. -/
def expandPart (run : Command → Sh Unit) : Nat → Manner → Part → Expanded → Sh Expanded
  | 0, _, _, e => return e
  | n + 1, m, p, e => do
    let region (after : Expanded) : Expanded :=
      if m.isQuoted then after else after.addRegion e.size false
    match p with
    | .text s => return e.putText s m.isQuoted
    | .quoted [.parameter "@" .value] => expandParameter run n m.quoted "@" .value e
    | .quoted parts => do
      let mark (e : Expanded) : Expanded :=
        if m.keepsQuotes && !m.isQuoted then e.put .mark else e
      return mark (← expand run n m.quoted false parts (mark e))
    | .parameter name use => expandParameter run n m name use e
    | .output commands => do
      let text ← outputOf run commands
      return region (e.putText text m.isQuoted)
    | .arithmetic expression => do
      let text ← expand run n .expression true expression .empty
      let value ← arithmetic text.text
      return region (e.putText value m.isQuoted)

/-- Puts what is made of a parameter behind what there is. -/
def expandParameter (run : Command → Sh Unit) :
    Nat → Manner → String → Use → Expanded → Sh Expanded
  | 0, _, _, _, e => return e
  | n + 1, m, name, use, e => do
    let value := (← get).units? m name
    let putValue (units : Option (List FieldUnit)) : Sh Expanded :=
      noteValue m name e.size (putUnits e (units.getD []))
    match use with
    | .bad => fail "Bad substitution"
    | .value => do
      checkSet name value.isSome
      putValue value
    | .length => do
      checkSet name value.isSome
      let units := (← get).units? { m with makesFields := false } name
      let length := (units.map List.length).getD 0
      noteValue m name e.size (e.putText (toString length) m.isQuoted)
    | .fallback kind orEmpty word => do
      let isSet := match value with
        | some units => !(orEmpty && units.isEmpty)
        | none => false
      match kind with
      | .otherwise =>
        if isSet then putValue value else expand run n m.fallback true word e
      | .instead =>
        if isSet then expand run n m.fallback true word e else putValue none
      | .assign =>
        if isSet then putValue value
        else do
          let manner : Manner := { Manner.text with isQuoted := m.isQuoted }
          let text ← expand run n manner (!m.isQuoted) word .empty
          assign name text.text
          putValue ((← get).units? m name)
      | .complain =>
        if isSet then putValue value
        else do
          let manner : Manner := { Manner.text with isQuoted := m.isQuoted }
          let text ← expand run n manner (!m.isQuoted) word .empty
          let reason :=
            if !word.isEmpty then text.text
            else if orEmpty then "parameter not set or null" else "parameter not set"
          fail (name ++ ": " ++ reason)
    | .trim side longest pattern => do
      checkSet name value.isSome
      let p ← expand run n .pattern true pattern .empty
      let p := Expanded.patternOf p.units
      let units := value.getD []
      let chars := Expanded.chars units
      let kept := match side with
        | .start => ((p.startLength? longest chars).map (units.drop ·)).getD units
        | .finish => ((p.endStart? longest chars).map (units.take ·)).getD units
      putValue (some kept)

end

/-- More parts than a word has. -/
def maxParts : Nat := 1000000000

/-- The text that a word becomes. -/
def expandText (run : Command → Sh Unit) (m : Manner) (word : Word) : Sh String := do
  return (← expand run maxParts m true word .empty).text

/-- The pattern that a word becomes. -/
def expandPattern (run : Command → Sh Unit) (word : Word) : Sh Pattern := do
  return Expanded.patternOf (← expand run maxParts .pattern true word .empty).units

end Sh

end AdapterReport.Shell
