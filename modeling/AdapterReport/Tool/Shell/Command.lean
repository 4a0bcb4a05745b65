import AdapterReport.Tool.Shell.Token

/-!
# Commands

Reads commands token by token. `Command.read` reads what stands up to the end of a line, or the
lines that belong to it.
-/

namespace AdapterReport.Shell.Read

/-- What may end a list of commands. -/
inductive ListKind where
  /-- The end of a line, or of the text. -/
  | line
  /-- A token that ends lists, behind one command at least. -/
  | body
  /-- A token that ends lists. -/
  | perhapsEmpty
  deriving DecidableEq

/-- Two commands one behind the other. -/
def following (before : Option Command) (c : Command) : Command :=
  match before with
  | some b => .sequence b c
  | none => c

/-- A command that a process of its own runs while the shell goes on. -/
def inBackground (line : Nat) : Command → Command
  | .pipeline commands _ => .pipeline commands true
  | .redirected start body redirects => .background start body redirects
  | c => .background line c []

/-- A command with redirects behind it. -/
def redirected (line : Nat) (c : Command) (redirects : List Redirect) : Command :=
  if redirects.isEmpty then c
  else match c with
    | .subshell start body _ => .subshell start body redirects
    | c => .redirected line c redirects

/-- The names of the commands of a shell that no function may have. -/
def specialNames : List String :=
  [".", ":", "break", "continue", "eval", "exec", "exit", "export", "readonly", "return", "set",
    "shift", "times", "trap", "unset", "local"]

/-- The line in which the source stands. -/
def line : Read Nat := do return (← get).line

/-- The words of all positional parameters. -/
def allParameters : List Word := [[.quoted [.parameter "@" .value]]]

/-- Takes a keyword, or ends the reading. -/
def expectKeyword (nested : NestedReading) (look : Look) (word : String) : Read Unit := do
  let t ← token nested look
  if !t.isKeyword word then unexpected t (some (.keyword word))

/-- Reads redirects behind a command. A keyword counts as such only where it stands right behind
the command. The number bounds the redirects. -/
def redirects (nested : NestedReading) (look : Look) : Nat → Read (List Redirect)
  | 0 => return []
  | n + 1 => do
    match ← token nested look with
    | .redirect descriptor o => do
      let r ← redirect nested descriptor o
      return r :: (← redirects nested .plain n)
    | t => do
      push t
      return []

/-- Reads the words of a loop up to a token that is none. The number bounds them. -/
def words (nested : NestedReading) : Nat → Read (List Word × Token)
  | 0 => return ([], .endOfFile)
  | n + 1 => do
    match ← token nested .plain with
    | .word w => do
      let (rest, t) ← words nested n
      return (w :: rest, t)
    | t => return ([], t)

/-- Reads the patterns of a part of a choice behind its first token. The word read last is taken
where a token is none. The number bounds them. -/
def patterns (nested : NestedReading) : Nat → Read (List Word × Token)
  | 0 => return ([], .endOfFile)
  | n + 1 => do
    let first := (← get).lastWord
    let t ← token nested .plain
    if t.isOperator "|" then
      let _ ← token nested .plain
      let (rest, t) ← patterns nested n
      return (first :: rest, t)
    else return ([first], t)

/-- The parts of a simple command. -/
structure SimpleDraft where
  assignments : List Word
  words : List Word
  redirects : List Redirect

/-- The name of a function that is defined if a parenthesis follows here. -/
def SimpleDraft.name? (d : SimpleDraft) : Option Word :=
  match d.assignments, d.words, d.redirects with
  | [], [w], [] => some w
  | _, _, _ => none

/-- Reads the parts of a simple command: the parts, and whether it is the name of a function in
front of a parenthesis. The number bounds the parts. -/
def simpleParts (nested : NestedReading) : Nat → SimpleDraft → Read (SimpleDraft × Bool)
  | 0, d => return (d, false)
  | n + 1, d => do
    match ← token nested ⟨false, false, d.words.isEmpty⟩ with
    | .word w =>
      if d.words.isEmpty && w.isAssignment then
        simpleParts nested n { d with assignments := d.assignments ++ [w] }
      else simpleParts nested n { d with words := d.words ++ [w] }
    | .redirect descriptor o => do
      let r ← redirect nested descriptor o
      simpleParts nested n { d with redirects := d.redirects ++ [r] }
    | t =>
      if t.isOperator "(" && d.name?.isSome then return (d, true)
      else do
        push t
        return (d, false)

mutual

/-- Reads commands up to what ends their list; `none` if there are none. The number bounds the
tokens. -/
def list : Nat → ListKind → Option Command → Read (Option Command)
  | 0, _, before => return before
  | n + 1, kind, before => do
    let nested : NestedReading := ⟨parenthesized n, list n .perhapsEmpty none⟩
    let isLine := kind == .line
    let t ← token nested ⟨!isLine, true, true⟩
    match t with
    | .newline => do
      documents nested
      return before
    | .endOfFile => do
      documents nested
      push .endOfFile
      return before
    | _ => do
      push t
      if t.endsList && (kind == .perhapsEmpty || (kind == .body && before.isSome)) then
        return before
      let start ← line
      let c ← andOr n
      let t ← token nested .plain
      let isBackground := t.isOperator "&"
      let c := if isBackground then inBackground start c else c
      let commands := some (following before c)
      match t with
      | .endOfFile => do
        documents nested
        push .endOfFile
        return commands
      | .newline => do
        push t
        list n kind commands
      | _ =>
        if isBackground || t.isOperator ";" then list n kind commands
        else if isLine then unexpected t none
        else do
          push t
          return commands

/-- Reads the commands in parentheses whose output is asked for, and the parenthesis. -/
def parenthesized : Nat → Read (Option Command)
  | 0 => return none
  | n + 1 => do
    let outer := (← get).pending
    modify fun s => { s with pending := [] }
    let commands ← list n .perhapsEmpty none
    let t ← token ⟨parenthesized n, list n .perhapsEmpty none⟩ .plain
    if !t.isOperator ")" then unexpected t (some (.operator ")"))
    withoutDocuments
    modify fun s => { s with pending := outer }
    return commands

/-- Reads pipelines of which each one depends on the one before. -/
def andOr : Nat → Read Command
  | 0 => fail "out of steps"
  | n + 1 => do andOrBehind n (← pipeline n .plain)

/-- Reads the pipelines behind a first one. -/
def andOrBehind : Nat → Command → Read Command
  | 0, c => return c
  | n + 1, c => do
    let t ← token ⟨parenthesized n, list n .perhapsEmpty none⟩ .plain
    if t.isOperator "&&" then andOrBehind n (.both c (← pipeline n .command))
    else if t.isOperator "||" then andOrBehind n (.either c (← pipeline n .command))
    else do
      push t
      return c

/-- Reads a pipeline. -/
def pipeline : Nat → Look → Read Command
  | 0, _ => fail "out of steps"
  | n + 1, look => do
    let nested : NestedReading := ⟨parenthesized n, list n .perhapsEmpty none⟩
    let t ← token nested look
    let isNegated := t.isKeyword "!"
    if !isNegated then push t
    let first ← command n (if isNegated then ⟨false, true, true⟩ else .plain)
    let rest ← piped n
    let c := if rest.isEmpty then first else .pipeline (first :: rest) false
    return if isNegated then .negated c else c

/-- Reads the commands behind a first one of a pipeline. -/
def piped : Nat → Read (List Command)
  | 0 => return []
  | n + 1 => do
    let t ← token ⟨parenthesized n, list n .perhapsEmpty none⟩ .plain
    if t.isOperator "|" then
      let c ← command n .command
      return c :: (← piped n)
    else do
      push t
      return []

/-- Reads a command. -/
def command : Nat → Look → Read Command
  | 0, _ => fail "out of steps"
  | n + 1, look => do
    let nested : NestedReading := ⟨parenthesized n, list n .perhapsEmpty none⟩
    let start ← line
    let t ← token nested look
    let compound (c : Command) (last : Token) : Read Command := do
      let t ← token nested .plain
      let fits := match last with
        | .operator sign => t.isOperator sign
        | .keyword word => t.isKeyword word
        | _ => false
      if !fits then unexpected t (some last)
      return redirected start c (← redirects nested ⟨false, true, true⟩ maxLines)
    match t with
    | .word _ | .redirect _ _ => do
      push t
      simple n
    | .operator "(" => do
      let body ← bodyOf n
      compound (.subshell start body []) (.operator ")")
    | .keyword "\x7b" => do
      let body ← bodyOf n
      compound body (.keyword "\x7d")
    | .keyword "if" => do
      let c ← branches n
      compound c (.keyword "fi")
    | .keyword "while" | .keyword "until" => do
      let test ← bodyOf n
      expectKeyword nested .plain "do"
      let body ← bodyOf n
      compound (.loop (t.isKeyword "until") test body) (.keyword "done")
    | .keyword "for" => do
      let c ← each n start
      compound c (.keyword "done")
    | .keyword "case" => do
      let c ← choose n start
      return redirected start c (← redirects nested ⟨false, true, true⟩ maxLines)
    | _ => unexpected t none

/-- Reads a list with one command at least. Where the text ends instead, nothing fits that could
follow, and that is said by who expects it. -/
def bodyOf : Nat → Read Command
  | 0 => fail "out of steps"
  | n + 1 => return (← list n .body none).getD (.simple 0 [] [] [])

/-- Reads the branches behind `if` or `elif`. -/
def branches : Nat → Read Command
  | 0 => fail "out of steps"
  | n + 1 => do
    let nested : NestedReading := ⟨parenthesized n, list n .perhapsEmpty none⟩
    let test ← bodyOf n
    expectKeyword nested .plain "then"
    let body ← bodyOf n
    let t ← token nested .plain
    if t.isKeyword "elif" then return .branch test body (some (← branches n))
    else if t.isKeyword "else" then return .branch test body (some (← bodyOf n))
    else do
      push t
      return .branch test body none

/-- Reads a loop over words behind `for`, up to its body. -/
def each : Nat → Nat → Read Command
  | 0, _ => fail "out of steps"
  | n + 1, start => do
    let nested : NestedReading := ⟨parenthesized n, list n .perhapsEmpty none⟩
    let name ← match ← token nested .plain with
      | .word w =>
        match w.plain?.filter isName with
        | some name => pure name
        | none => fail "Bad for loop variable"
      | _ => fail "Bad for loop variable"
    let t ← token nested .command
    let found ←
      if t.isKeyword "in" then
        let (found, t) ← words nested maxLines
        if !(t.isOperator ";" || t matches .newline) then unexpected t none
        pure found
      else do
        if !t.isOperator ";" then push t
        pure allParameters
    expectKeyword nested .command "do"
    return .each start name found (← bodyOf n)

/-- Reads a choice behind `case`, with its end. -/
def choose : Nat → Nat → Read Command
  | 0, _ => fail "out of steps"
  | n + 1, start => do
    let nested : NestedReading := ⟨parenthesized n, list n .perhapsEmpty none⟩
    match ← token nested .plain with
    | .word w => do
      expectKeyword nested .command "in"
      return .choose start w (← choices n)
    | t => unexpected t (some (.word []))

/-- Reads the parts of a choice, with the end of it. -/
def choices : Nat → Read (List Choice)
  | 0 => return []
  | n + 1 => do
    let nested : NestedReading := ⟨parenthesized n, list n .perhapsEmpty none⟩
    let t ← token nested ⟨true, true, false⟩
    if t.isKeyword "esac" then return []
    if t.isOperator "(" then let _ ← token nested .plain
    let (found, t) ← patterns nested maxLines
    if !t.isOperator ")" then unexpected t (some (.operator ")"))
    let body ← list n .perhapsEmpty none
    let t ← token nested ⟨true, true, false⟩
    if t.isKeyword "esac" then return [.mk found body]
    else if t.isOperator ";;" then return .mk found body :: (← choices n)
    else unexpected t (some (.operator ";;"))

/-- Reads a simple command, or the definition of a function. -/
def simple : Nat → Read Command
  | 0 => fail "out of steps"
  | n + 1 => do
    let nested : NestedReading := ⟨parenthesized n, list n .perhapsEmpty none⟩
    let start ← line
    let (d, isFunction) ← simpleParts nested maxLines ⟨[], [], []⟩
    if !isFunction then return .simple start d.assignments d.words d.redirects
    let t ← token nested .plain
    if !t.isOperator ")" then unexpected t (some (.operator ")"))
    match (d.words.head?.bind Word.plain?).filter isName with
    | some name =>
      if specialNames.contains name then fail "Bad function name"
      let start ← line
      return .function start name (← command n .command)
    | none => fail "Bad function name"

end

/-- What has been read of a source. -/
inductive Found where
  /-- A line with commands, or without any. -/
  | line (command : Option Command)
  /-- The end of the text. -/
  | nothing

/-- Reads the next lines up to the end of their commands. -/
def commands : Read Found := do
  modify fun s => { s with pushed := none, pending := [], expectsAlias := false }
  let c ← list maxLines .line none
  let atEnd := (← get).pushed matches some .endOfFile
  return if atEnd && c.isNone then .nothing else .line c

/-- Whether the commands read last were the last ones of the text. -/
def isOver (s : Source) : Bool := s.pushed matches some .endOfFile

end AdapterReport.Shell.Read
