import AdapterReport.Host.ConfigSpace
import AdapterReport.Host.ToolText
import AdapterReport.Path
import AdapterReport.Text.Utf8

/-!
# The host

A `Host` answers what a collector asks: the names in a directory, the bytes of a file, the target of
a link, the output of a tool. Names and paths are bytes; a name that is no text is shown with
replacement characters but opened by its bytes. Every answer may be missing.
-/

namespace AdapterReport

/-- What the kernel says about itself. -/
structure Kernel where
  name : String
  nodeName : String
  release : String
  version : String
  machine : String

/-- The name of the host, with a stand-in where the kernel has none. -/
def Kernel.hostname (kernel : Option Kernel) : String :=
  match kernel with
  | some k => if k.nodeName.isEmpty then "localhost" else k.nodeName
  | none => "localhost"

/-- A host as far as it can be asked. -/
structure Host where
  kernel : Option Kernel
  /-- The names in a directory, in any order. -/
  list : List UInt8 → Option (List (List UInt8))
  /-- The bytes of a file. -/
  content : List UInt8 → Option (List UInt8)
  /-- The target of a symbolic link. -/
  target : List UInt8 → Option (List UInt8)
  /-- What a tool prints with these arguments, nothing if it cannot be run. -/
  output : String → List String → String

/-- Where the file systems of the kernel and the configuration lie. -/
structure Roots where
  sysfs : String
  procfs : String
  etc : String
  deriving DecidableEq

namespace Roots

/-- The usual places. -/
def default : Roots := ⟨"/sys", "/proc", "/etc"⟩

/-- The usual places, except for those that are given. -/
def overridden (sysfs procfs etc : Option String) : Roots :=
  ⟨sysfs.getD default.sysfs, procfs.getD default.procfs, etc.getD default.etc⟩

/-- The three places in one directory. -/
def under (directory : String) : Roots :=
  let join (name : String) := String.ofList (Path.join directory.toList name.toList)
  ⟨join "sys", join "proc", join "etc"⟩

end Roots

namespace Host

variable (h : Host)

/-- The path of something below a directory. -/
def below (directory : List UInt8) (path : String) : List UInt8 :=
  Path.join directory (Text.Utf8.encode path)

/-- The content of a file that is text. -/
def text? (path : List UInt8) : Option String :=
  (h.content path).bind Text.Utf8.decode?

/-- The last component of the target of a link. -/
def targetName? (path : List UInt8) : Option String := do
  let target ← h.target path
  return Text.Utf8.decodeLossy (← Path.fileName? target)

/-- The name of the host. -/
def hostname : String :=
  Kernel.hostname h.kernel

end Host

end AdapterReport
