import AdapterReport.Host.Basic

/-!
# File trees

A `FileTree` holds the files, directories and symbolic links of a file system under their full
paths, and a working directory. `resolve` walks a path from component to component and follows
links; reading, listing and creating files build on it, with the errors of the system.
-/

namespace AdapterReport

/-- The name of an entry in a directory. -/
abbrev EntryName := List UInt8

/-- Why a path cannot be used. -/
inductive FileError where
  | notFound
  | notDirectory
  | isDirectory
  | notLink
  | tooManyLinks
  | nameTooLong
  /-- The path holds a zero byte. -/
  | zeroByte
  /-- The file is not the text that it should be. -/
  | notText
  /-- There is no device behind the file. -/
  | noDevice
  deriving DecidableEq

/-- What the system says about a path that cannot be used. -/
def FileError.message : FileError → String
  | .notFound => "No such file or directory (os error 2)"
  | .notDirectory => "Not a directory (os error 20)"
  | .isDirectory => "Is a directory (os error 21)"
  | .notLink => "Invalid argument (os error 22)"
  | .tooManyLinks => "Too many levels of symbolic links (os error 40)"
  | .nameTooLong => "File name too long (os error 36)"
  | .zeroByte => "file name contained an unexpected NUL byte"
  | .notText => "stream did not contain valid UTF-8"
  | .noDevice => "No such device or address (os error 6)"

/-- An entry of a file system. -/
inductive Entry where
  | directory
  | file (content : List UInt8)
  | link (target : List UInt8)
  /-- A file that takes everything and holds nothing. -/
  | void
  /-- A file that takes everything and holds zeros without end. -/
  | zeros
  /-- A file that takes nothing and holds zeros without end. -/
  | full
  /-- What a process has opened under a number. -/
  | descriptor (number : Nat)
  /-- The terminal of a process, which none has. -/
  | terminal
  deriving DecidableEq

/-- A file system. -/
structure FileTree where
  /-- The entries below the root, by their full paths. -/
  entries : List (List EntryName × Entry)
  /-- The full path of the working directory. -/
  working : List EntryName

namespace FileTree

/-! ## Paths -/

/-- A step of a path. -/
inductive Step where
  | here
  | up
  | name (n : EntryName)
  /-- A slash at the end of the path. -/
  | slashEnd
  deriving DecidableEq

/-- The steps of a path. -/
def steps (path : List UInt8) : List Step :=
  let step (c : List UInt8) : Step :=
    if c = [0x2E] then .here else if c = [0x2E, 0x2E] then .up else .name c
  let named := ((Text.splitOn (0x2F : UInt8) path).filter (!·.isEmpty)).map step
  match named.getLast? with
  | some (.name _) => if path.getLast? = some 0x2F then named ++ [.slashEnd] else named
  | _ => named

/-- The path of the directory that holds the last component of a path. -/
def parentPath (path : List UInt8) : List UInt8 :=
  let parent := ((path.reverse.dropWhile (· == 0x2F)).dropWhile (· != 0x2F)).reverse
  if parent.isEmpty then [0x2E] else parent

variable (t : FileTree)

/-- The entry at a full path. -/
def entry? (full : List EntryName) : Option Entry :=
  if full.isEmpty then some .directory else t.entries.lookup full

/-- Where a path leads. -/
inductive Place where
  /-- To an entry. -/
  | found (full : List EntryName)
  /-- To a name that is free in a directory. -/
  | free (directory : List EntryName) (name : EntryName)
  deriving DecidableEq

/-- What is asked for where a path ends. -/
inductive Wanted where
  /-- The last entry itself, be it a link or not. -/
  | entry
  /-- What the last entry leads to. -/
  | target
  /-- A file to be written, old or new. No slash may stand behind its name, whether in the path or
  in the target of a link. -/
  | file
  deriving DecidableEq

/-- The number of bytes of the longest name. -/
def longestName : Nat := 255

/-- The most symbolic links that are followed on the way. -/
def maxLinks : Nat := 40

/-- Walks the steps from a place. The walk looks at no more than `fuel` steps and follows no more
than `links` links. -/
def walk (wanted : Wanted) : Nat → Nat → List EntryName → List Step → Except FileError Place
  | 0, _, _, _ => .error .tooManyLinks
  | _ + 1, _, place, [] => .ok (.found place)
  | fuel + 1, links, place, step :: rest =>
    match t.entry? place with
    | some .directory =>
      match step with
      | .here | .slashEnd => walk wanted fuel links place rest
      | .up => walk wanted fuel links place.dropLast rest
      | .name n =>
        if wanted = .file && rest = [.slashEnd] then .error .isDirectory
        else if longestName < n.length then .error .nameTooLong
        else match t.entry? (place ++ [n]) with
          | none =>
            if rest.isEmpty || rest = [.slashEnd] then .ok (.free place n) else .error .notFound
          | some (.link target) =>
            if rest.isEmpty && wanted = .entry then .ok (.found (place ++ [n]))
            else match links with
              | 0 => .error .tooManyLinks
              | links + 1 =>
                walk wanted fuel links (if target.head? = some 0x2F then [] else place)
                  (steps target ++ rest)
          | some _ => walk wanted fuel links (place ++ [n]) rest
    | some _ => .error .notDirectory
    | none => .error .notFound

/-- More steps than any walk takes: paths and the targets of links have less than 4096 steps. -/
def maxSteps : Nat := 4096 * (maxLinks + 1) + 1

/-- Where a path leads from the working directory. -/
def resolve (wanted : Wanted) (path : List UInt8) : Except FileError Place :=
  if path.contains 0 then .error .zeroByte
  else if path.isEmpty then .error .notFound
  else if 4095 < path.length then .error .nameTooLong
  else t.walk wanted maxSteps maxLinks (if Path.isAbsolute path then [] else t.working)
    (steps path)

/-! ## Reading -/

/-- The entry that a path leads to. -/
def find (wanted : Wanted) (path : List UInt8) : Except FileError Entry := do
  match ← t.resolve wanted path with
  | .free _ _ => .error .notFound
  | .found full => match t.entry? full with
    | some e => .ok e
    | none => .error .notFound

/-- The bytes of a file. -/
def read (path : List UInt8) : Except FileError (List UInt8) := do
  match ← t.find .target path with
  | .file content => .ok content
  | .directory => .error .isDirectory
  | .void | .zeros | .full | .descriptor _ => .ok []
  | .link _ => .error .notFound
  | .terminal => .error .noDevice

/-- The text of a file. -/
def readText (path : List UInt8) : Except FileError String := do
  match Text.Utf8.decode? (← t.read path) with
  | some s => .ok s
  | none => .error .notText

/-- The target of a symbolic link. -/
def readLink (path : List UInt8) : Except FileError (List UInt8) := do
  match ← t.find .entry path with
  | .link target => .ok target
  | _ => .error .notLink

/-- The names of the entries right below a full path. -/
def names (full : List EntryName) : List EntryName :=
  t.entries.filterMap fun e =>
    if e.1.length = full.length + 1 && e.1.dropLast = full then e.1.getLast? else none

/-- The names in a directory. -/
def list (path : List UInt8) : Except FileError (List EntryName) := do
  match ← t.resolve .target path with
  | .free _ _ => .error .notFound
  | .found full => match t.entry? full with
    | some .directory => .ok (t.names full)
    | _ => .error .notDirectory

/-! ## Writing -/

/-- Puts an entry at a full path. -/
def put (full : List EntryName) (e : Entry) : FileTree :=
  if (t.entries.lookup full).isSome then
    { t with entries := t.entries.map fun old => if old.1 = full then (full, e) else old }
  else { t with entries := t.entries ++ [(full, e)] }

/-- The full path of the file that is opened for writing, and its entry: an old file, or a new one
in an old directory. -/
def openForWriting (path : List UInt8) : Except FileError (List EntryName × Entry) := do
  match ← t.resolve .file path with
  | .free directory name => .ok (directory ++ [name], .file [])
  | .found full => match t.entry? full with
    | some .directory => .error .isDirectory
    | some (.file _) => .ok (full, .file [])
    | some .terminal => .error .noDevice
    | some device => .ok (full, device)
    | none => .error .notFound

/-- The tree with a directory at a path, whose parents are made as well. -/
def makeDirectory (path : List UInt8) : Except FileError FileTree :=
  let parts := (Text.splitOn (0x2F : UInt8) path).filter (!·.isEmpty)
  let start : List UInt8 := if Path.isAbsolute path then [0x2F] else []
  let make (state : FileTree × List UInt8) (part : List UInt8) :
      Except FileError (FileTree × List UInt8) := do
    let (tree, before) := state
    let here := Path.join before part
    match ← tree.resolve .target here with
    | .free directory name => .ok (tree.put (directory ++ [name]) .directory, here)
    | .found full => match tree.entry? full with
      | some .directory => .ok (tree, here)
      | _ => .error .notDirectory
  (parts.foldlM make (t, start)).map (·.1)

/-- The tree with one more entry, whose parents are made as well. -/
def add (path : List UInt8) (e : Entry) : Except FileError FileTree := do
  match e with
  | .directory => t.makeDirectory path
  | _ =>
    let tree ← t.makeDirectory (parentPath path)
    match e with
    | .link _ =>
      match ← tree.resolve .entry path with
      | .free directory name => .ok (tree.put (directory ++ [name]) e)
      | .found _ => .ok tree
    | _ =>
      let (full, _) ← tree.openForWriting path
      .ok (tree.put full e)

end FileTree

/-- The host whose files are those of a tree. -/
def Host.ofTree (t : FileTree) (kernel : Option Kernel) (output : String → List String → String) :
    Host where
  kernel := kernel
  list path := (t.list path).toOption
  content path := (t.read path).toOption
  target path := (t.readLink path).toOption
  output := output

end AdapterReport
