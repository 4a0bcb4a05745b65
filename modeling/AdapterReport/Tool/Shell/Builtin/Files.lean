import AdapterReport.Tool.Shell.Lookup

/-!
# Commands about files

The commands of the shell that change the working directory, tell where programs are found, and set
what the system grants.
-/

namespace AdapterReport.Shell.Sh

/-! ## The working directory -/

/-- Takes the last component of a path away, which is given by its components in reverse order. -/
def stepTo (components : List String) (component : String) : List String :=
  if component.isEmpty || component == "." then components
  else if component == ".." then components.tail
  else component :: components

/-- The path that another one leads to from a directory, without asking the system. -/
def pathFrom (directory path : String) : String :=
  let isAbsolute := path.toList.head? == some '/'
  let base := if isAbsolute then "" else directory
  let slashes (s : String) : Nat := (s.toList.takeWhile (· == '/')).length
  let start := if slashes (if isAbsolute then path else base) == 2 then "//" else "/"
  let components :=
    (path.splitOn "/").foldl stepTo ((base.splitOn "/").foldl stepTo [])
  start ++ "/".intercalate components.reverse

/-- Whether the options ask for a path without links: whether the last one does so. -/
def wantsPhysical (options : List LetterOption) : Bool :=
  (options.getLast?.map (·.letter)) == some 'P'

/-- The path of the working directory for the system. -/
def physicalDirectory : Sh String := do
  return Text.ByteText.ofBytes (← ask .whereabouts)

/-- Goes to a directory and says whether that was possible. -/
def enter (physical : Bool) (path : String) : Sh Bool := do
  let s ← get
  let logical := pathFrom s.directory path
  match ← ask (.enter (Text.ByteText.toBytes (if physical then path else logical))) with
  | .error _ => return false
  | .ok () => do
    setVariable "OLDPWD" (some s.directory) .exported
    let directory ← if physical then physicalDirectory else pure logical
    modify fun s => { s with
      directory := directory
      found := s.found.filter fun f => f.2.toList.head? == some '/' }
    setVariable "PWD" (some directory) .exported
    return true

/-- The first directory of a search path in which a path leads to a directory, and whether it is
another one than the working directory. -/
def searchDirectory (path : String) : List String → Sh (Option (String × Bool))
  | [] => return none
  | directory :: rest => do
    let candidate := pathIn directory path
    match ← ask (.status (Text.ByteText.toBytes candidate) true) with
    | .ok status =>
      if status.kind == .directory then return some (candidate, !directory.isEmpty)
      else searchDirectory path rest
    | .error _ => searchDirectory path rest

/-- Whether a path does not depend on where one searches. -/
def isFixed (path : String) : Bool :=
  match path.toList with
  | '/' :: _ | ['.'] | '.' :: '/' :: _ | ['.', '.'] | '.' :: '.' :: '/' :: _ => true
  | _ => false

/-- Changes the working directory. -/
def cd : Builtin := fun _ arguments => do
  let (given, operands) ← letters "LP" "" arguments
  let s ← get
  let goesBack := operands.head? == some "-"
  let wanted := match operands.head? with
    | none => (s.value? "HOME").getD ""
    | some "-" => (s.value? "OLDPWD").getD ""
    | some path => path
  let path := if wanted.isEmpty then "." else wanted
  let found ← match s.value? "CDPATH" with
    | some search => if isFixed path then pure none else searchDirectory path (search.splitOn ":")
    | none => pure none
  let (target, isElsewhere) := found.getD (path, false)
  if !(← enter (wantsPhysical given) target) then fail ("can't cd to " ++ path)
  if goesBack || isElsewhere then put ((← get).directory ++ "\n")
  return 0

/-- Tells the path of the working directory. -/
def pwd : Builtin := fun _ arguments => do
  let (given, _) ← letters "LP" "" arguments
  put ((← if wantsPhysical given then physicalDirectory else pure (← get).directory) ++ "\n")
  return 0

/-! ## Programs -/

/-- Tells where programs were found, looks for others, or forgets all. -/
def hash : Builtin := fun _ arguments => do
  let (given, names) ← letters "r" "" arguments
  if !given.isEmpty then
    modify fun s => { s with found := [] }
    return 0
  if names.isEmpty then
    (inRows 31 (← get).found).forM fun (_, path) => put (path ++ "\n")
    return 0
  let statuses ← names.mapM fun name => do
    modify fun s => { s with found := s.found.filter (·.1 != name) }
    match ← meaning true false name with
    | .unknown e => do
      warn (name ++ ": " ++ commandFault e)
      return 1
    | _ => return 0
  return if statuses.contains 1 then 1 else 0

/-- Tells what names stand for. -/
def type : Builtin := fun _ names => do
  let statuses ← names.mapM (describe true false)
  return if statuses.contains 127 then 127 else 0

/-! ## Rights -/

/-- The places of the digits of those whom a letter names. -/
def placesOf (c : Char) : List Nat :=
  match c with
  | 'u' => [6]
  | 'g' => [3]
  | 'o' => [0]
  | 'a' => [6, 3, 0]
  | _ => []

/-- The rights that letters name; some stand for rights that somebody had at the start. -/
def rightsOf (start : Nat) (letters : List Char) : Nat :=
  letters.foldl
    (fun rights c =>
      rights ||| match c with
        | 'r' => 4
        | 'w' => 2
        | 'x' => 1
        | 'X' => if start &&& 0o111 == 0 then 0 else 1
        | 'u' => start / 64 % 8
        | 'g' => start / 8 % 8
        | 'o' => start % 8
        | _ => 0)
    0

/-- The rights after one change of the digits at some places. -/
def changed (rights : Nat) (places : List Nat) (sign : Char) (given : Nat) : Nat :=
  let change (rights place : Nat) : Nat :=
    let unit := Nat.pow 2 place
    let old := rights / unit % 8
    let new :=
      if sign == '+' then old ||| given
      else if sign == '-' then old - (old &&& given)
      else given
    rights - old * unit + new * unit
  places.foldl change rights

/-- The rights after changes that are written one behind the other. Without a comma between them
they are for the same. The number bounds them. -/
def changedBy (start : Nat) : Nat → Nat → List Nat → List Char → Option Nat
  | 0, rights, _, _ => some rights
  | _, rights, _, [] => some rights
  | n + 1, rights, before, text => do
    let who := text.takeWhile ("ugoa".toList.contains ·)
    let named := before ++ who.flatMap placesOf
    let places := (if named.isEmpty then placesOf 'a' else named).eraseDups
    let sign :: rest := text.drop who.length | none
    if !"+-=".toList.contains sign then none
    let what := rest.takeWhile ("rwxugoXs".toList.contains ·)
    let rights := changed rights places sign (rightsOf start what)
    match rest.drop what.length with
    | ',' :: rest => changedBy start n rights [] rest
    | rest => changedBy start n rights places rest

/-- Rights as letters. -/
def rightsText (rights : Nat) : String :=
  let one (name : String) (place : Nat) : String :=
    let digit := rights / Nat.pow 2 place % 8
    let letter (bit : Nat) (c : String) : String := if digit / bit % 2 == 1 then c else ""
    name ++ "=" ++ letter 4 "r" ++ letter 2 "w" ++ letter 1 "x"
  one "u" 6 ++ "," ++ one "g" 3 ++ "," ++ one "o" 0

/-- All rights. -/
def allRights : Nat := 511

/-- Tells or sets which rights the files do not have that are made. -/
def umask : Builtin := fun _ arguments => do
  let (given, operands) ← letters "S" "" arguments
  let s ← get
  match operands with
  | [] => do
    let digits := Nat.toDigits 8 s.mask
    let octal := String.ofList (List.replicate (4 - digits.length) '0' ++ digits)
    put ((if given.isEmpty then octal else rightsText (allRights - s.mask)) ++ "\n")
  | text :: _ => do
    let mask ←
      if (text.toList.head?.any Char.isDigit) then
        if text.toList.all fun c => c.isDigit && c < '8' then
          pure (text.toList.foldl (fun n c => n * 8 + (c.toNat - '0'.toNat)) 0)
        else fail ("Illegal number: " ++ text)
      else
        let start := allRights - s.mask
        match changedBy start (text.length + 1) start [] text.toList with
        | some rights => pure (allRights - rights)
        | none => fail ("Illegal mode: " ++ text)
    modify fun s => { s with mask := mask % 512 }
  return 0

/-! ## Limits -/

/-- What the system limits. -/
structure Limit where
  letter : Char
  name : String
  /-- The limit at the start; there is none without a number. -/
  start : Option Nat
  deriving DecidableEq

/-- What the system limits, in the order in which it is shown. -/
def allLimits : List Limit :=
  [⟨'t', "time(seconds)", none⟩, ⟨'f', "file(blocks)", none⟩, ⟨'d', "data(kbytes)", none⟩,
    ⟨'s', "stack(kbytes)", some 8192⟩, ⟨'c', "coredump(blocks)", some 0⟩,
    ⟨'m', "memory(kbytes)", none⟩, ⟨'l', "locked memory(kbytes)", some 8192⟩,
    ⟨'p', "process", some 128619⟩, ⟨'n', "nofiles", some 20000⟩,
    ⟨'v', "vmemory(kbytes)", none⟩, ⟨'w', "locks", none⟩, ⟨'r', "rtprio", some 0⟩]

/-- The text of a limit. -/
def limitText (s : Session) (l : Limit) : String :=
  match (s.limits.lookup l.letter).getD l.start with
  | some n => toString n
  | none => "unlimited"

/-- Tells or sets a limit. -/
def ulimit : Builtin := fun _ arguments => do
  let (given, operands) ← letters "HSatfdscmlpnvwr" "" arguments
  let chosen := (given.map (·.letter)).filter fun c => !"HSa".toList.contains c
  let letter := chosen.getLast?.getD 'f'
  let s ← get
  match operands with
  | _ :: _ :: _ => fail "too many arguments"
  | [text] => do
    if given.any (·.letter == 'a') then fail "too many arguments"
    let limit ←
      if text == "unlimited" then pure none
      else if !text.isEmpty && text.toList.all Char.isDigit then pure text.toNat?
      else fail "bad number"
    modify fun s => { s with limits := (letter, limit) :: s.limits }
  | [] =>
    if given.any (·.letter == 'a') then
      allLimits.forM fun l =>
        let room := String.ofList (List.replicate (20 - l.name.length) ' ')
        put (l.name ++ room ++ " " ++ limitText s l ++ "\n")
    else
      match allLimits.find? (·.letter == letter) with
      | some l => put (limitText s l ++ "\n")
      | none => pure ()
  return 0

end AdapterReport.Shell.Sh
