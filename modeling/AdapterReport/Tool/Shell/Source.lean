import AdapterReport.Tool.Shell.Tree

/-!
# Sources

A `Source` is the text from which a shell reads its commands. An alias is put into it in the place
of its name; a mark shows where it ends, and up to there it is not replaced again.
-/

namespace AdapterReport.Shell

/-- An item of a source. -/
inductive SourceItem where
  | char (c : Char)
  /-- The end of what stands for an alias. -/
  | aliasEnd (name : String) (endsInBlank : Bool)
  deriving DecidableEq

/-- A document whose text is still to be read. -/
structure PendingDocument where
  number : Nat
  /-- The line that ends the text. -/
  mark : String
  /-- Whether tabs at the beginning of a line are left out. -/
  stripsTabs : Bool
  /-- Whether something is replaced in the text. -/
  expands : Bool

/-- An operator that changes what a descriptor stands for, without the word behind it. -/
inductive RedirectOperator where
  | file (opening : Opening)
  | copy
  | document (stripsTabs : Bool)
  deriving DecidableEq

/-- A token. -/
inductive Token where
  | endOfFile
  | newline
  | operator (sign : String)
  | keyword (word : String)
  | redirect (descriptor : Nat) (operator : RedirectOperator)
  | word (w : Word)

namespace Token

/-- A token as an error shows it. -/
def shown : Token → String
  | endOfFile => "end of file"
  | newline => "newline"
  | operator sign => "\"" ++ sign ++ "\""
  | keyword w => "\"" ++ w ++ "\""
  | redirect _ _ => "redirection"
  | word _ => "word"

/-- Whether a token is this operator. -/
def isOperator (sign : String) : Token → Bool
  | operator s => s == sign
  | _ => false

/-- Whether a token is this keyword. -/
def isKeyword (word : String) : Token → Bool
  | keyword w => w == word
  | _ => false

/-- The keywords. -/
def keywords : List String :=
  ["!", "case", "do", "done", "elif", "else", "esac", "fi", "for", "if", "in", "then", "until",
    "while", "\x7b", "\x7d"]

/-- Whether a token ends a list of commands. -/
def endsList : Token → Bool
  | endOfFile => true
  | operator s => [")", ";;"].contains s
  | keyword w => ["do", "done", "elif", "else", "esac", "fi", "then", "\x7d"].contains w
  | _ => false

end Token

/-- Why a text is no command. -/
structure SyntaxFault where
  line : Nat
  message : String
  deriving DecidableEq

/-- The text from which commands are read. -/
structure Source where
  rest : List SourceItem
  line : Nat
  aliases : List (String × String)
  /-- The token that comes next although it was read before. -/
  pushed : Option Token
  /-- The word that was read last. -/
  lastWord : Word
  /-- Whether the next word may be an alias because it stands behind one that ends in a blank. -/
  expectsAlias : Bool
  pending : List PendingDocument
  /-- The documents that were read, by their numbers. -/
  documents : List (Nat × Document)
  nextDocument : Nat
  /-- Whether the end of the text has been seen. -/
  touchedEnd : Bool

namespace Source

/-- The items of a text. -/
def itemsOf (text : String) : List SourceItem := text.toList.map .char

/-- A text that is read from its beginning. -/
def ofText (text : String) (aliases : List (String × String)) (nextDocument : Nat) : Source where
  rest := itemsOf text
  line := 1
  aliases := aliases
  pushed := none
  lastWord := []
  expectsAlias := false
  pending := []
  documents := []
  nextDocument := nextDocument
  touchedEnd := false

/-- The first byte of some items. -/
def firstChar? : List SourceItem → Option Char
  | [] => none
  | .char c :: _ => some c
  | .aliasEnd _ _ :: rest => firstChar? rest

/-- The first byte of some items, what is behind it, and whether an alias that ends in a blank has
ended before it. -/
def split? : List SourceItem → Bool → Option (Char × List SourceItem × Bool)
  | [], _ => none
  | .char c :: rest, blank => some (c, rest, blank)
  | .aliasEnd _ endsInBlank :: rest, blank => split? rest (blank || endsInBlank)

/-- Whether an alias ends here. -/
def isAtAliasEnd (s : Source) : Bool :=
  match s.rest with
  | .aliasEnd _ _ :: _ => true
  | _ => false

/-- What stands for an alias, unless it is part of what stands for itself. -/
def alias? (s : Source) (name : String) : Option String :=
  let isInUse := s.rest.any fun
    | .aliasEnd n _ => n == name
    | .char _ => false
  if isInUse then none else s.aliases.lookup name

/-- The source with what stands for an alias in front of it. -/
def insert (s : Source) (name text : String) : Source :=
  let endsInBlank := text.toList.getLast?.any fun c => c == ' ' || c == '\t'
  { s with rest := itemsOf text ++ .aliasEnd name endsInBlank :: s.rest }

end Source

/-- A step in reading a source. -/
abbrev Read := StateT Source (Except SyntaxFault)

namespace Read

/-- Ends the reading with an error. -/
def fail {α : Type} (message : String) : Read α := do
  throw ⟨(← get).line, message⟩

/-- The next byte, which is left where it is. -/
def peek : Read (Option Char) := do
  let c := Source.firstChar? (← get).rest
  if c.isNone then modify fun s => { s with touchedEnd := true }
  return c

/-- Takes the next byte. -/
def next : Read (Option Char) := do
  let s ← get
  match Source.split? s.rest s.expectsAlias with
  | some (c, rest, blank) => do
    set { s with rest := rest, expectsAlias := blank }
    return some c
  | none => do
    set { s with rest := [], touchedEnd := true }
    return none

/-- Counts a line. -/
def countLine : Read Unit := modify fun s => { s with line := s.line + 1 }

/-- Leaves out lines that end with a backslash, where nothing else is on them. The number bounds
them. -/
def skipJoins : Nat → Read Unit
  | 0 => pure ()
  | n + 1 => do
    let s ← get
    match Source.split? s.rest false with
    | some ('\\', rest, _) =>
      if Source.firstChar? rest == some '\n' then
        let _ ← next
        let _ ← next
        countLine
        skipJoins n
    | _ => pure ()

/-- More lines than a text has. -/
def maxLines : Nat := 1000000000

/-- The next byte behind such lines, which is left where it is. -/
def peekJoined : Read (Option Char) := do
  skipJoins maxLines
  peek

/-- Takes the next byte if it is this one. -/
def accept (c : Char) : Read Bool := do
  if (← peekJoined) == some c then
    let _ ← next
    return true
  else return false

end Read

end AdapterReport.Shell
