import AdapterReport.Tool.Shell.FileNames
import AdapterReport.Tool.Shell.Lookup

/-!
# Invocations

The words of a simple command are expanded from left to right, as far as is needed to know which
command it is; that decides how the others are expanded. `command` in front of a command is a part
of the way to it.
-/

namespace AdapterReport.Shell

/-- What is known of a simple command. -/
structure Invocation where
  /-- The fields that its words have become. -/
  fields : List String
  /-- The place of the field that names the command. -/
  place : Nat
  /-- The words that were not expanded. -/
  words : List Word
  /-- Whether it may be a function. -/
  functions : Bool
  /-- Whether programs are looked for in the standard directories. -/
  standard : Bool
  /-- Whether the first field names a special command of the shell, if it names a command of the
  shell. -/
  isSpecial : Option Bool
  /-- The command of the shell that it is. -/
  builtin : Option BuiltinName

namespace Invocation

/-- The name of the command and its arguments. -/
def arguments (i : Invocation) : List String := i.fields.drop i.place

/-- Whether assignments in front of the command count only for it. -/
def isLocal (i : Invocation) : Bool := !i.fields.isEmpty && i.isSpecial != some true

/-- Whether the command lasts in place of the shell. -/
def isExec (i : Invocation) : Bool := (i.builtin.map (·.name)) == some "exec"

end Invocation

namespace Sh

/-- Expands words until there is a field at a place, if there are enough words. -/
def fillTo (run : Command → Sh Unit) (place : Nat) :
    List String → List Word → Sh (List String × List Word)
  | fields, [] => return (fields, [])
  | fields, word :: words => do
    if place < fields.length then return (fields, word :: words)
    fillTo run place (fields ++ (← expandFields run word)) words

/-- The same for what is known of a command. -/
def fill (run : Command → Sh Unit) (place : Nat) (i : Invocation) : Sh Invocation := do
  let (fields, words) ← fillTo run place i.fields i.words
  return { i with fields := fields, words := words }

/-- Goes on behind `command` to the name of another command, and says whether there is one. The
number bounds the options in between. -/
def behindCommand (run : Command → Sh Unit) : Nat → Invocation → Sh (Invocation × Option Invocation)
  | 0, i => return (i, none)
  | n + 1, i => do
    let i ← fill run i.place i
    match (i.fields[i.place]?).map String.toList with
    | none => return (i, none)
    | some ['-', '-'] => do
      let place := i.place + 1
      let i ← fill run place i
      return (i, if place < i.fields.length then some { i with place := place } else none)
    | some ('-' :: c :: more) =>
      if (c :: more).all (· == 'p') then
        behindCommand run n { i with place := i.place + 1, standard := true }
      else return (i, none)
    | some _ => return (i, some i)

/-- Finds out which command of the shell it is, if any. The number bounds how often `command` stands
in front of it. -/
def identify (run : Command → Sh Unit) : Nat → Invocation → Sh Invocation
  | 0, i => return i
  | n + 1, i => do
    match i.fields[i.place]? with
    | none => return i
    | some name => do
      let s ← get
      let isFunction := i.functions && (s.function? name).isSome
      match if isFunction then none else BuiltinName.named? name with
      | none => return { i with builtin := none }
      | some b => do
        let i := { i with builtin := some b, isSpecial := i.isSpecial.or (some b.isSpecial) }
        if b.name != "command" then return i
        let (all, inner) ← behindCommand run (i.words.length + i.fields.length + 2)
          { i with place := i.place + 1 }
        match inner with
        | some inner => identify run n { inner with functions := false }
        | none => return { all with place := i.place, standard := i.standard }

/-- Expands a word that may be an assignment. -/
def expandArgument (run : Command → Sh Unit) (assigns : Bool) (word : Word) : Sh (List String) := do
  if assigns && word.isAssignment then return [← expandText run .assignment word]
  else expandFields run word

/-- Expands the words of a simple command. -/
def invocation (run : Command → Sh Unit) (words : List Word) : Sh Invocation := do
  let i ← fill run 0 ⟨[], 0, words, true, false, none, none⟩
  let i ← identify run maxRounds i
  let assigns := i.builtin.any (·.assigns)
  let others ← i.words.mapM (expandArgument run assigns)
  return { i with fields := i.fields ++ others.flatten, words := [] }

end Sh

end AdapterReport.Shell
