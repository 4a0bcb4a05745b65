import AdapterReport.Tool.Shell.Expansion

/-!
# Names of files

A field in which a pattern stands becomes the paths that fit it, in the order of their bytes. The
pattern is compared component by component; a dot at the beginning of a name fits only a dot.
-/

namespace AdapterReport.Shell

namespace Pattern

/-- A pattern in which a byte behind a backslash is literal. -/
def withoutBackslashes : Pattern → Pattern
  | ⟨'\\', false⟩ :: next :: rest => ⟨next.char, true⟩ :: withoutBackslashes rest
  | c :: rest => c :: withoutBackslashes rest
  | [] => []

/-- Whether brackets end behind their first byte. -/
def bracketsEnd (p : Pattern) : Bool :=
  match p with
  | ⟨'!', false⟩ :: _ :: rest | _ :: rest => rest.any (· == ⟨']', false⟩)
  | [] => false

/-- Whether a component has a byte with a meaning of its own. -/
def isVague : Pattern → Bool
  | [] => false
  | c :: rest =>
    (!c.isLiteral && (c.char == '*' || c.char == '?' || (c.char == '[' && bracketsEnd rest)))
      || isVague rest

/-- The components of a pattern. -/
def components : Pattern → List Pattern
  | [] => [[]]
  | c :: rest =>
    if c.char == '/' then [] :: components rest
    else
      match components rest with
      | first :: more => (c :: first) :: more
      | [] => [[c]]

end Pattern

namespace Sh

/-- The names in a directory that fit a component. -/
def fittingNames (directory : String) (p : Pattern) : Sh (List String) := do
  let path := if directory.isEmpty then "." else directory
  match ← ask (.names (Text.ByteText.toBytes path)) with
  | .error _ => return []
  | .ok names =>
    let showsHidden := p.head?.any (·.char == '.')
    let all := [".", ".."] ++ names.map Text.ByteText.ofBytes
    return all.filter fun name =>
      (showsHidden || name.toList.head? != some '.') && p.fits name.toList

/-- The paths behind a directory that fit components. The number bounds the components. -/
def pathsFrom : Nat → String → List Pattern → Sh (List String)
  | 0, _, _ => return []
  | n + 1, directory, components => do
    let plain := components.takeWhile (!·.isVague)
    match components.drop plain.length with
    | [] => do
      if directory.isEmpty then return []
      let path := directory ++ "/".intercalate (plain.map Pattern.text)
      match ← ask (.status (Text.ByteText.toBytes path) false) with
      | .ok _ => return [path]
      | .error _ => return []
    | vague :: rest => do
      let directory := directory ++ String.join (plain.map fun p => p.text ++ "/")
      let names ← fittingNames directory vague
      if rest.isEmpty then return names.map (directory ++ ·)
      else
        let found ← names.mapM fun name => pathsFrom n (directory ++ name ++ "/") rest
        return found.flatten

/-- The paths that fit a pattern. -/
def paths (p : Pattern) : Sh (List String) := do
  let components := p.withoutBackslashes.components
  let found ← pathsFrom (components.length + 1) "" components
  return found.mergeSort fun a b => decide (a ≤ b)

/-- What a field becomes. -/
def namesOfField (units : List FieldUnit) : Sh (List String) := do
  let p := Expanded.patternOf units
  let found ← if p.isActive && !(← get).has "noglob" then paths p else pure []
  return if found.isEmpty then [p.text] else found

/-- The fields that a word becomes. -/
def expandFields (run : Command → Sh Unit) (word : Word) : Sh (List String) := do
  let e ← expand run maxParts .fields true word .empty
  let fields := e.fields (← get).separators none
  return (← fields.mapM namesOfField).flatten

/-- The fields that words become. -/
def expandWords (run : Command → Sh Unit) (words : List Word) : Sh (List String) := do
  return (← words.mapM (expandFields run)).flatten

end Sh

end AdapterReport.Shell
