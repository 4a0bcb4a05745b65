import AdapterReport.Tool.Shell.Pattern

/-!
# Fields

What a word becomes is a row of units: bytes, some of them literal, marks of quotes, and breaks
between the values of positional parameters. Regions of it are cut into fields at the separators;
`Expanded.fields` does that.
-/

namespace AdapterReport.Shell

/-- A unit of what a word becomes. -/
inductive FieldUnit where
  | char (c : Char) (isLiteral : Bool)
  /-- A quote has stood here. A field with nothing but a mark is not left out. -/
  | mark
  /-- The border between two positional parameters. -/
  | cut
  deriving DecidableEq

/-- A part of what a word becomes that is cut into fields. -/
structure Region where
  start : Nat
  stop : Nat
  /-- Whether it is cut at breaks only. -/
  atCutsOnly : Bool
  deriving DecidableEq

/-- What a word becomes. -/
structure Expanded where
  /-- The units, the last one first. -/
  reversed : List FieldUnit
  size : Nat
  /-- The regions, the last one first. -/
  regions : List Region

namespace Expanded

/-- Nothing yet. -/
def empty : Expanded := ⟨[], 0, []⟩

/-- Puts a unit behind the others. -/
def put (e : Expanded) (u : FieldUnit) : Expanded :=
  { e with reversed := u :: e.reversed, size := e.size + 1 }

/-- Puts the bytes of a text behind the others. -/
def putText (e : Expanded) (s : String) (isLiteral : Bool) : Expanded :=
  s.toList.foldl (fun e c => e.put (.char c isLiteral)) e

/-- Makes a region of all from a place on. -/
def addRegion (e : Expanded) (start : Nat) (atCutsOnly : Bool) : Expanded :=
  { e with regions := ⟨start, e.size, atCutsOnly⟩ :: e.regions }

/-- The units, in their order. -/
def units (e : Expanded) : List FieldUnit := e.reversed.reverse

/-- The bytes of some units. A break counts as a zero. -/
def chars (units : List FieldUnit) : List Char :=
  units.filterMap fun
    | .char c _ => some c
    | .mark => none
    | .cut => some '\x00'

/-- All bytes as one text. -/
def text (e : Expanded) : String := String.ofList (chars e.units)

/-- The pattern that some units spell. -/
def patternOf (units : List FieldUnit) : Pattern :=
  units.filterMap fun
    | .char c isLiteral => some ⟨c, isLiteral⟩
    | .mark | .cut => none

/-! ## Separators -/

/-- The separators where nothing else is said. -/
def standardSeparators : String := " \t\n"

/-- Whether a unit is a separator. -/
def isSeparator (separators : String) (u : FieldUnit) : Bool :=
  match u with
  | .char c _ => separators.toList.contains c
  | .mark => false
  | .cut => true

/-- Whether a unit is a separator of which many count as one. -/
def isBlankSeparator (u : FieldUnit) : Bool := isSeparator standardSeparators u

/-- How far the cutting has come. -/
structure Cutting where
  /-- The fields that are complete, the last one first. -/
  fields : List (List FieldUnit)
  /-- The units of the field begun, the last one first. -/
  current : List FieldUnit
  /-- Whether a blank separator has just ended a field. -/
  isBehindBlank : Bool
  /-- How many more fields there may be. -/
  left : Option Nat
  /-- How long the last field is without the separators at its end. -/
  trimmed : Option Nat

namespace Cutting

/-- Puts a unit behind the others. -/
def put (k : Cutting) (u : FieldUnit) : Cutting := { k with current := u :: k.current }

/-- Goes on in the last field, of which only separators at the end are left out. -/
def inLast (k : Cutting) (isSeparator isBlank : Bool) (u : FieldUnit) : Cutting :=
  if isBlank then { k.put u with trimmed := k.trimmed.or (some k.current.length) }
  else
    let trimmed := if isSeparator && k.isBehindBlank then k.trimmed else none
    { k.put u with trimmed := trimmed, isBehindBlank := false }

/-- Goes on behind a separator. Of blank ones many count as one unless `keepsEach` is set. -/
def atSeparator (k : Cutting) (isBlank keepsEach : Bool) (u : FieldUnit) : Cutting :=
  let behind := if keepsEach then k.isBehindBlank else isBlank
  if k.current.isEmpty && behind then { k with isBehindBlank := false }
  else if k.left == some 1 then
    { k.put u with left := some 0, trimmed := some k.current.length, isBehindBlank := behind }
  else
    { k with
      fields := k.current.reverse :: k.fields
      current := []
      isBehindBlank := behind
      left := k.left.map (· - 1) }

/-- Goes on behind the next unit of a region. `atCutsOnly` is said of the region, and `afterCuts` of
the one before. -/
def step (separators : String) (atCutsOnly afterCuts : Bool) (k : Cutting) (u : FieldUnit) :
    Cutting :=
  let isSep := isSeparator (if atCutsOnly then "" else separators) u
  let isBlank := isSep && isBlankSeparator u
  if k.left == some 0 then k.inLast isSep isBlank u
  else if k.isBehindBlank then
    if isBlank then { k with current := [] }
    else if isSep then { k with current := [], isBehindBlank := false }
    else { k with current := [u], isBehindBlank := false }
  else if isSep then k.atSeparator isBlank (afterCuts || atCutsOnly) u
  else k.put u

end Cutting

/-- Cuts the units from a place on at the regions, and says whether the last one is cut at breaks
only. -/
def cutFrom (separators : String) :
    List Region → Bool → Nat → List FieldUnit → Cutting → Cutting × Bool
  | [], afterCuts, _, units, k => (units.foldl Cutting.put k, afterCuts)
  | r :: regions, afterCuts, place, units, k =>
    let (before, rest) := units.splitAt (r.start - place)
    let start := max r.start place
    let (inside, rest) := rest.splitAt (r.stop - start)
    let k := { before.foldl Cutting.put k with isBehindBlank := false }
    let k := inside.foldl (Cutting.step separators r.atCutsOnly afterCuts) k
    cutFrom separators regions r.atCutsOnly (max r.stop start) rest k

/-- The fields of what a word becomes, at most so many. -/
def fields (separators : String) (most : Option Nat) (e : Expanded) : List (List FieldUnit) :=
  let (k, atCutsOnly) :=
    cutFrom separators e.regions.reverse false 0 e.units ⟨[], [], false, most, none⟩
  let last := k.current.reverse
  let last := (k.trimmed.map last.take).getD last
  let isLast := !last.isEmpty || (!e.regions.isEmpty && atCutsOnly)
  k.fields.reverse ++ if isLast then [last] else []

end Expanded

end AdapterReport.Shell
