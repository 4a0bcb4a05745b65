import AdapterReport.CommandLine.Run
import AdapterReport.FileTree.Standard
import AdapterReport.Tool.Toolbox
import Std.Time.DateTime.Timestamp
import Std.Time.Zoned.Database

/-!
# The program

Takes a picture of the files that a report needs, lets `Run.perform` do the work, and carries out
what it says: prints, and writes the file that has changed. The program starts no other program, so
the tools that a host may have print nothing.
-/

namespace AdapterReport.Picture

/-- What an action gives, or nothing where the system refuses. -/
def attempt {α : Type} (action : IO α) : IO (Option α) := do
  try
    return some (← action)
  catch _ =>
    return none

/-- The tree with an entry, if there is room for it. -/
def put (path : String) (e : Entry) (t : FileTree) : FileTree :=
  ((t.add (Text.Utf8.encode path) e).toOption).getD t

/-- The tree with a file, if it can be read. -/
def addFile (t : FileTree) (path : String) : IO FileTree := do
  match ← attempt (IO.FS.readBinFile path) with
  | some content => return put path (.file content.toList) t
  | none => return t

/-- The tree with a link to where a path really leads, if it leads anywhere. -/
def addLink (t : FileTree) (path : String) : IO (FileTree × Option String) := do
  if ← (System.mkFilePath [path]).pathExists then
    match ← attempt (IO.FS.realPath path) with
    | some place =>
      return (put path (.link (Text.Utf8.encode place.toString)) t, some place.toString)
    | none => return (t, none)
  else return (t, none)

/-- The names in a directory, none if it cannot be read. -/
def namesIn (directory : String) : IO (List String) := do
  match ← attempt (System.mkFilePath [directory]).readDir with
  | some entries => return entries.toList.map (·.fileName)
  | none => return []

/-- The tree with what a report tells of a network interface. -/
def addInterface (t : FileTree) (place : String) : IO FileTree := do
  let t ← addFile t (place ++ "/address")
  match ← addLink t (place ++ "/device") with
  | (t, some device) => return (← addLink (put device .directory t) (device ++ "/driver")).1
  | (t, none) => return t

/-- The tree with everything that a report asks the host for. -/
def addFacts (roots : Roots) (t : FileTree) : IO FileTree := do
  let devices := roots.sysfs ++ "/bus/pci/devices"
  let interfaces := roots.sysfs ++ "/class/net"
  let t ← (← namesIn devices).foldlM
    (fun t name => addFile t (devices ++ "/" ++ name ++ "/config")) t
  let t ← (← namesIn interfaces).foldlM
    (fun t name => addInterface t (interfaces ++ "/" ++ name)) t
  let t ← (← namesIn roots.etc).foldlM
    (fun t name =>
      if name.endsWith "-release" then addFile t (roots.etc ++ "/" ++ name) else return t) t
  [roots.etc ++ "/debian_version", roots.procfs ++ "/cmdline",
    roots.procfs ++ "/meminfo"].foldlM addFile t

/-- The tree with the directory of a file that may be written, and with what stands there now. -/
def addOutput (t : FileTree) (path : String) : IO FileTree := do
  let parent := String.ofList
    ((path.toList.reverse.dropWhile (· == '/')).dropWhile (· != '/')).reverse
  let t ← if !parent.isEmpty && (← (System.mkFilePath [parent]).isDir) then
      pure (put parent .directory t)
    else pure t
  if ← (System.mkFilePath [path]).isDir then return put path .directory t
  else if (t.find .target (Text.Utf8.encode path)).toBool then return t
  else addFile t path

/-- What the kernel says about itself. -/
def kernel : IO (Option Kernel) := do
  let said (name : String) : IO String := do
    return Text.trim ((← attempt (IO.FS.readFile ("/proc/sys/kernel/" ++ name))).getD "")
  return some
    ⟨← said "ostype", ← said "hostname", ← said "osrelease", ← said "version", ← said "arch"⟩

/-- Whether the superuser runs the program. -/
def isRoot : IO Bool := do
  let status := (← attempt (IO.FS.readFile "/proc/self/status")).getD ""
  return (Text.lines status).any fun line =>
    "Uid:".toList.isPrefixOf line.toList && (line.splitOn "\t")[2]? == some "0"

/-- The time, with the offset of the local zone where it is known. -/
def now : IO Moment := do
  let t ← Std.Time.Timestamp.now
  let offset ← attempt do
    return ((← Std.Time.Database.defaultGetLocalZoneRules).timezoneAt t).offset.second.val
  let nanoseconds := t.toNanosecondsSinceUnixEpoch.val
  return ⟨nanoseconds / 1000000000, (nanoseconds % 1000000000).toNat, offset.getD 0⟩

/-- The variables of the environment that the program knows. -/
def environment : IO (List (String × String)) := do
  let names := ["SFREPORT_SYSFS", "SFREPORT_PROCFS", "SFREPORT_ETC", "SFREPORT_CONFIG",
    "SFREPORT_LOG", "SFREPORT_LOG_FORMAT", "RUST_LOG"]
  names.filterMapM fun name => do
    return (← IO.getEnv name).map fun value => (name, value)

/-- What a run can use. -/
def take (arguments : List String) : IO Surroundings := do
  let working := (← IO.currentDir).toString
  let blank := FileTree.blank
    ((Text.splitOn (0x2F : UInt8) (Text.Utf8.encode working)).filter (!·.isEmpty))
  let s : Surroundings :=
    { arguments := arguments
      environment := ← environment
      files := blank
      tools := .standard
      kernel := ← kernel
      isRoot := ← isRoot
      now := ← now }
  let files ← addFacts s.roots blank
  match Options.ofArguments? arguments (s.environment? "SFREPORT_CONFIG") with
  | .error _ => return s
  | .ok o =>
    let files ← o.config.toList.foldlM addFile files
    return { s with files := ← o.outputFile.toList.foldlM addOutput files }

/-- The path of an entry. -/
def pathOf (full : List EntryName) : String :=
  String.join (full.map fun name => "/" ++ Text.Utf8.decodeLossy name)

/-- Writes the files that have changed. -/
def write (before after : FileTree) : IO Unit := do
  for (full, e) in after.entries do
    if before.entries.lookup full != some e then
      if let .file content := e then
        IO.FS.writeBinFile (pathOf full) (ByteArray.mk content.toArray)

end AdapterReport.Picture

/-- Makes a report. -/
def main (arguments : List String) : IO UInt32 := do
  let s ← AdapterReport.Picture.take arguments
  let run := AdapterReport.Run.perform s
  let output ← IO.getStdout
  output.write (ByteArray.mk run.output.toArray)
  output.flush
  AdapterReport.Picture.write s.files run.files
  IO.eprint run.messages
  for line in run.log do
    IO.eprintln ((line.level.tag?.getD "") ++ " " ++ line.message)
  return UInt32.ofNat run.status.code
