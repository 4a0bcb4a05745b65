import AdapterReport.Text.Lines

/-!
# Paths

A path is a list of characters or of bytes; the separator and the dot are parameters, so that both
are paths. `fileName?` is its last component: empty components and single dots do not count, and a
path that ends in two dots has none. `extension?` is what follows the last dot of the file name,
unless the name begins with that dot.
-/

namespace AdapterReport

/-- The two characters that shape paths, in the alphabet `α`. -/
class PathAlphabet (α : Type) where
  slash : α
  dot : α

instance : PathAlphabet Char where
  slash := '/'
  dot := '.'

instance : PathAlphabet UInt8 where
  slash := 0x2F
  dot := 0x2E

namespace Path

variable {α : Type} [BEq α] [PathAlphabet α]

open PathAlphabet (slash dot)

/-- The components of a path that name something: all but the empty ones and single dots. -/
def components (path : List α) : List (List α) :=
  (Text.splitOn slash path).filter fun c => !c.isEmpty && !(c == [dot])

/-- Whether a path begins at the root. -/
def isAbsolute (path : List α) : Bool :=
  path.head?.any (· == slash)

/-- The last component of a path, if it is not two dots. -/
def fileName? (path : List α) : Option (List α) := do
  let last ← (components path).getLast?
  if last == [dot, dot] then none else some last

/-- What follows the last dot of a name that does not begin with it. -/
def nameExtension? (name : List α) : Option (List α) :=
  let reversed := name.reverse
  let stem := (reversed.dropWhile (!· == dot)).drop 1
  if stem.isEmpty then none else some (reversed.takeWhile (!· == dot)).reverse

/-- The extension of the last component of a path. -/
def extension? (path : List α) : Option (List α) :=
  (fileName? path).bind nameExtension?

/-- The path of something below a directory. An absolute path stays what it is. -/
def join (directory path : List α) : List α :=
  if isAbsolute path then path
  else if directory.isEmpty || directory.getLast?.any (· == slash) then directory ++ path
  else directory ++ slash :: path

end Path

end AdapterReport
