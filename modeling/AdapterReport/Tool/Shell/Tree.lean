/-!
# Command trees

What a shell reads: commands, the words in them, and the parts of a word. Texts are byte texts.
-/

namespace AdapterReport.Shell

/-- What takes the place of the value of a parameter, and when. -/
inductive Fallback where
  /-- A word where there is no value. -/
  | otherwise
  /-- A word where there is a value. -/
  | instead
  /-- A word that becomes the value where there is none. -/
  | assign
  /-- An error where there is no value. -/
  | complain
  deriving DecidableEq

/-- Which end of a value is cut off. -/
inductive Side where
  | start
  | finish
  deriving DecidableEq

/-- How a file is opened for a command. -/
inductive Opening where
  | read
  | write
  /-- To write over a file even where that is not allowed otherwise. -/
  | overwrite
  | append
  | both
  deriving DecidableEq

mutual

/-- A part of a word. -/
inductive Part where
  | text (s : String)
  /-- Parts between quotes. -/
  | quoted (parts : List Part)
  | parameter (name : String) (use : Use)
  /-- What some commands write. -/
  | output (commands : Option Command)
  /-- The value of an expression. -/
  | arithmetic (expression : List Part)

/-- What is made of a parameter. -/
inductive Use where
  | value
  | length
  /-- Nothing that makes sense. -/
  | bad
  /-- Something else for some values; an empty value counts as none if `orEmpty` is set. -/
  | fallback (kind : Fallback) (orEmpty : Bool) (word : List Part)
  /-- The value without what fits a pattern at one end. -/
  | trim (side : Side) (longest : Bool) (pattern : List Part)

/-- What a descriptor stands for while a command runs. -/
inductive Redirect where
  | file (descriptor : Nat) (opening : Opening) (path : List Part)
  /-- The same as another descriptor. -/
  | copy (descriptor source : Nat)
  /-- The same as a descriptor whose number a word gives. -/
  | copyOf (descriptor : Nat) (source : List Part)
  | close (descriptor : Nat)
  /-- A text that stands behind the line, by its number. -/
  | document (descriptor number : Nat)

/-- A part of a choice: the patterns, and what is done if one of them fits. -/
inductive Choice where
  | mk (patterns : List (List Part)) (body : Option Command)

/-- A command. -/
inductive Command where
  | simple (line : Nat) (assignments words : List (List Part)) (redirects : List Redirect)
  | pipeline (commands : List Command) (inBackground : Bool)
  /-- Commands that a process of their own runs while the shell goes on. -/
  | background (line : Nat) (body : Command) (redirects : List Redirect)
  /-- Commands that a process of their own runs. -/
  | subshell (line : Nat) (body : Command) (redirects : List Redirect)
  | redirected (line : Nat) (body : Command) (redirects : List Redirect)
  | sequence (first second : Command)
  /-- The second command only if the first one succeeds. -/
  | both (first second : Command)
  /-- The second command only if the first one fails. -/
  | either (first second : Command)
  | negated (body : Command)
  | branch (test body : Command) (rest : Option Command)
  /-- A body that is repeated as long as the test succeeds, or as long as it fails. -/
  | loop (whileFails : Bool) (test body : Command)
  | each (line : Nat) (name : String) (words : List (List Part)) (body : Command)
  | choose (line : Nat) (word : List Part) (choices : List Choice)
  | function (line : Nat) (name : String) (body : Command)

end

/-- A word. -/
abbrev Word := List Part

/-- A text that stands behind a line. -/
inductive Document where
  /-- Nothing in it is replaced. -/
  | plain (text : String)
  | expanded (word : Word)

/-- What a word spells if no part of it is quoted or replaced. -/
def Word.plain? (word : Word) : Option String :=
  word.foldlM
    (fun s part =>
      match part with
      | .text t => some (s ++ t)
      | _ => none)
    ""

/-- What a word spells in which nothing is replaced. The number bounds the depth of quotes. -/
def Word.spelled : Nat → Word → String
  | 0, _ => ""
  | n + 1, word =>
    String.join (word.map fun
      | .text t => t
      | .quoted parts => spelled n parts
      | _ => "")

/-- Whether a byte may begin a name. -/
def startsName (c : Char) : Bool := c.isAlpha || c == '_'

/-- Whether a byte may stand in a name. -/
def continuesName (c : Char) : Bool := c.isAlphanum || c == '_'

/-- Whether a text is a name. -/
def isName (s : String) : Bool :=
  match s.toList with
  | [] => false
  | c :: rest => startsName c && rest.all continuesName

/-- Whether a byte is a parameter of its own. -/
def isSpecial (c : Char) : Bool := c.isDigit || "#?$!-*@".toList.contains c

/-- The name and the value of an assignment that a text spells. -/
def assignment? (s : String) : Option (String × String) :=
  match s.toList with
  | [] => none
  | c :: rest =>
    if !startsName c then none
    else
      let name := c :: rest.takeWhile continuesName
      match s.toList.drop name.length with
      | '=' :: value => some (String.ofList name, String.ofList value)
      | _ => none

/-- Whether a word assigns a value to a variable. -/
def Word.isAssignment (word : Word) : Bool :=
  match word with
  | .text s :: _ => (assignment? s).isSome
  | _ => false

end AdapterReport.Shell
