import AdapterReport.FileTree.Standard
import AdapterReport.Tool.Runner

/-!
# Executables

What a command stands for on a host that has the standard programs and nothing else. A command
without a slash is looked for in the directory of programs, any other one is a path.
-/

namespace AdapterReport.Executable

/-- What a program may have opened apart from what every process has. -/
def descriptors : List (List EntryName × Entry) :=
  (List.range 20).map fun n => (FileTree.fullPath ("proc/self/fd/" ++ toString n), .descriptor n)

/-- The files of the host. Nothing can be started in the working directory. -/
def files : FileTree :=
  descriptors.foldl (fun t e => t.put e.1 e.2) (.blank (FileTree.fullPath "home/user"))

/-- The name of the program that a path leads to. -/
def atPath (path : String) : Except StartError String :=
  match files.resolve .target (Text.Utf8.encode path) with
  | .error e => .error (.unreachable e)
  | .ok (.free _ _) => .error (.unreachable .notFound)
  | .ok (.found full) =>
    match FileTree.standardPrograms.find? fun name => FileTree.programPlace name == full with
    | some name => .ok name
    | none => .error .denied

/-- The name of the program of a name. No name at all, one dot and two dots lead to directories. -/
def atName (name : String) : Except StartError String :=
  if FileTree.longestName < (Text.Utf8.encode name).length then .error (.unreachable .nameTooLong)
  else if ["", ".", ".."].contains name then .error .denied
  else atPath ("/usr/bin/" ++ name)

/-- The name of the program that a command starts. -/
def find (command : String) : Except StartError String :=
  if command.toList.contains '/' then atPath command else atName command

end AdapterReport.Executable
