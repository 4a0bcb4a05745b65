import AdapterReport.Tool.Shell.Builtin.Basic

/-!
# Looking for commands

What the name of a command stands for: a function, a command of the shell, or a program that is
looked for in the directories of `PATH`.
-/

namespace AdapterReport.Shell

/-- What is known of a command of the shell. -/
structure BuiltinName where
  name : String
  /-- Whether errors in it end the shell and assignments in front of it stay. -/
  isSpecial : Bool
  /-- Whether its arguments may be assignments. -/
  assigns : Bool
  deriving DecidableEq

namespace BuiltinName

/-- The commands of the shell. -/
def all : List BuiltinName :=
  let special (assigns : Bool) (name : String) : BuiltinName := ⟨name, true, assigns⟩
  let ordinary (assigns : Bool) (name : String) : BuiltinName := ⟨name, false, assigns⟩
  [".", ":", "break", "continue", "eval", "exec", "exit", "return", "set", "shift", "times",
      "trap", "unset"].map (special false)
    ++ ["export", "local", "readonly"].map (special true)
    ++ ["[", "bg", "cd", "chdir", "command", "echo", "false", "fg", "getopts", "hash", "jobs",
      "kill", "printf", "pwd", "read", "test", "true", "type", "ulimit", "umask", "unalias",
      "wait"].map (ordinary false)
    ++ [ordinary true "alias"]

/-- The command of the shell of this name. -/
def named? (name : String) : Option BuiltinName := all.find? (·.name == name)

end BuiltinName

/-- What the name of a command stands for. -/
inductive Meaning where
  | function (f : ShellFunction)
  | builtin (b : BuiltinName)
  /-- A program at a path. -/
  | program (path : String)
  | unknown (reason : SystemError)

namespace Sh

/-- What is said about a command that cannot be run. -/
def commandFault : SystemError → String
  | .noEntry | .notDirectory => "not found"
  | e => e.message

/-- The directories of a search path. -/
def directories (path : String) : List String := path.splitOn ":"

/-- The path of a name in a directory. -/
def pathIn (directory name : String) : String :=
  if directory.isEmpty then name else directory ++ "/" ++ name

/-- Looks for a program in directories. Of several reasons why there is none, the last one is
given. -/
def search (name : String) : SystemError → List String → Sh (Except SystemError String)
  | reason, [] => return .error reason
  | reason, directory :: rest => do
    let path := pathIn directory name
    match ← ask (.status (Text.ByteText.toBytes path) true) with
    | .ok status =>
      if status.kind == .regular && status.isExecutable then return .ok path
      else search name .denied rest
    | .error .noEntry | .error .notDirectory => search name reason rest
    | .error e => search name e rest

/-- The search path where nothing else is said. -/
def standardPath : String :=
  "/usr/local/sbin:/usr/local/bin:/usr/sbin:/usr/bin:/sbin:/bin"

/-- Looks for a program and remembers where it was found. -/
def searchProgram (standard : Bool) (name : String) : Sh Meaning := do
  let s ← get
  let known := if standard then none else s.found.lookup name
  match known with
  | some path => return .program path
  | none => do
    let path := if standard then standardPath else (s.value? "PATH").getD ""
    match ← search name .noEntry (directories path) with
    | .ok found => do
      if !standard then modify fun s => { s with found := s.found ++ [(name, found)] }
      return .program found
    | .error e => return .unknown e

/-- What a name stands for. Functions count only if `functions` is set; programs are looked for in
the standard directories if `standard` is. -/
def meaning (functions standard : Bool) (name : String) : Sh Meaning := do
  if name.toList.contains '/' then return .program name
  let s ← get
  match if functions then s.function? name else none with
  | some f => return .function f
  | none =>
    match BuiltinName.named? name with
    | some b => return .builtin b
    | none => searchProgram standard name

/-! ## Descriptions -/

/-- Tells what a name stands for, with words or by what could be typed for it. -/
def describe (inWords standard : Bool) (name : String) : Sh Nat := do
  let tell (words brief : String) : Sh Nat := do
    put (if inWords then name ++ words ++ "\n" else brief ++ "\n")
    return 0
  let s ← get
  let wasKnown := !standard && (s.found.lookup name).isSome
  if Token.keywords.contains name then return ← tell " is a shell keyword" name
  match s.aliases.lookup name with
  | some value =>
    return ← tell (" is an alias for " ++ value) ("alias " ++ name ++ "=" ++ quotedText value)
  | none => pure ()
  match ← meaning true standard name with
  | .function _ => tell " is a shell function" name
  | .builtin b => tell (if b.isSpecial then " is a special shell builtin" else
      " is a shell builtin") name
  | .program path => do
    let isThere ← if name.toList.contains '/' then
        pure (← ask (.status (Text.ByteText.toBytes path) true)).isOk
      else pure true
    if isThere then
      tell ((if wasKnown then " is a tracked alias for " else " is ") ++ path) path
    else missing
  | .unknown _ => missing
where
  /-- Tells that a name stands for nothing. -/
  missing : Sh Nat := do
    if inWords then put (name ++ ": not found\n")
    return 127

end Sh

end AdapterReport.Shell
