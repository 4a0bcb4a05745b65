import AdapterReport.Tool.Shell.Source

/-!
# Words

Reads the parts of a word: quotes, backslashes, and what a dollar sign or a backquote begins. A word
is read place by place; a `Place` says what ends it and what the bytes in it mean.
-/

namespace AdapterReport.Shell

/-- The line that ends a document, while one is read. -/
structure DocumentEnd where
  mark : List Char
  stripsTabs : Bool

/-- Where in a word something stands. -/
inductive PlaceKind where
  /-- Outside of quotes and braces. -/
  | bare
  /-- Between double quotes, which stand in braces outside of quotes if `inBraces` is set. -/
  | quotes (inBraces : Bool)
  /-- In the braces of a parameter, outside of quotes. -/
  | braces
  /-- In the braces of a parameter between double quotes. More of these may stand there; `inner` is
  set between them. -/
  | quotedBraces (inner : Bool)
  /-- In an expression, behind so many open parentheses. -/
  | expression (depth : Nat)
  /-- In a document. -/
  | document
  deriving DecidableEq

/-- Where in a word something stands, and what else counts there. -/
structure Place where
  kind : PlaceKind
  /-- The end of the document in which it stands. -/
  ending : Option DocumentEnd
  /-- Whether nothing is replaced, because the word is the mark of a document. -/
  isMark : Bool

namespace Place

/-- A place of another kind. -/
def like (p : Place) (kind : PlaceKind) : Place := { p with kind := kind }

/-- Whether bytes count as quoted. -/
def isQuoted (p : Place) : Bool :=
  match p.kind with
  | .bare | .braces => false
  | _ => true

/-- Whether the place is in braces that may end with the next one. -/
def isInBraces (p : Place) : Bool :=
  match p.kind with
  | .braces | .quotes true | .quotedBraces _ => true
  | _ => false

/-- The place of the word of a parameter in braces. -/
def ofWord (p : Place) : Place :=
  match p.kind with
  | .bare | .braces => p.like .braces
  | _ => p.like (.quotedBraces false)

/-- What is said if the text ends here, if it must not. -/
def fault? (p : Place) : Option String :=
  match p.kind with
  | .bare | .document => none
  | .braces => some "Missing '\x7d'"
  | .expression _ => some "Missing '))'"
  | .quotes _ | .quotedBraces _ =>
    some (if p.ending.isSome then "Missing '\x7d'" else "Unterminated quoted string")

/-- Whether a backslash before a byte stays where it is. -/
def keepsBackslash (p : Place) (c : Char) : Bool :=
  p.isQuoted && !"\\\x60$".toList.contains c
    && (c != '"' || (p.ending.isSome && !p.isInBraces)) && (c != '\x7d' || !p.isInBraces)

end Place

/-- What has been read of a word; the last part and the last byte come first. -/
structure WordDraft where
  parts : List Part
  bytes : List Char

namespace WordDraft

/-- Nothing yet. -/
def empty : WordDraft := ⟨[], []⟩

/-- The parts, the last one first. -/
def closed (d : WordDraft) : List Part :=
  if d.bytes.isEmpty then d.parts else .text (String.ofList d.bytes.reverse) :: d.parts

/-- Puts a byte behind the others. -/
def put (d : WordDraft) (c : Char) : WordDraft := { d with bytes := c :: d.bytes }

/-- Puts a part behind the others. -/
def add (d : WordDraft) (part : Part) : WordDraft := ⟨part :: d.closed, []⟩

/-- Puts a byte that counts as quoted. -/
def putQuoted (d : WordDraft) (p : Place) (c : Char) : WordDraft :=
  if p.isQuoted then d.put c else d.add (.quoted [.text c.toString])

/-- The word. -/
def toWord (d : WordDraft) : Word := d.closed.reverse

end WordDraft

/-- How the commands are read whose output stands in a word. -/
structure NestedReading where
  /-- Reads commands up to a closing parenthesis. -/
  inParentheses : Read (Option Command)
  /-- Reads commands up to the end of the text. -/
  toEnd : Read (Option Command)

namespace Read

/-! ## Ends of lines -/

/-- What is behind a mark at the beginning of some items, if it is the whole line. -/
def behindMark : List Char → List SourceItem → Option (List SourceItem)
  | mark, .aliasEnd _ _ :: rest => behindMark mark rest
  | [], [] => some []
  | [], .char c :: rest => if c == '\n' then some rest else none
  | m :: mark, .char c :: rest => if m == c then behindMark mark rest else none
  | _ :: _, [] => none

/-- Items without tabs at the beginning. -/
def withoutTabs : List SourceItem → List SourceItem
  | .char '\t' :: rest => withoutTabs rest
  | items => items

/-- Whether a document ends at the beginning of this line; then the line is taken. -/
def endsDocument (ending : Option DocumentEnd) : Read Bool := do
  match ending with
  | none => return false
  | some e => do
    if e.stripsTabs then modify fun s => { s with rest := withoutTabs s.rest }
    let s ← get
    match behindMark e.mark s.rest with
    | some rest => do
      set { s with rest := rest, line := s.line + 1, touchedEnd := s.touchedEnd || rest.isEmpty }
      return true
    | none => return false

/-- Takes a line feed inside of a word, and says whether the document ends behind it. -/
def lineFeed (p : Place) : Read Bool := do
  let _ ← next
  countLine
  endsDocument p.ending

/-- Ends the reading of a place where the text ends. -/
def atEnd (p : Place) (d : WordDraft) : Read Word :=
  match p.fault? with
  | some fault => fail fault
  | none => return d.toWord

/-! ## Simple parts -/

/-- Reads up to a single quote. The number bounds the bytes. -/
def singleQuoted (p : Place) : Nat → List Char → Read (List Char)
  | 0, read => return read.reverse
  | n + 1, read => do
    let atEnd : Read (List Char) :=
      fail (if p.ending.isSome then "Missing '\x7d'" else "Unterminated quoted string")
    match ← peek with
    | none => atEnd
    | some '\n' => do
      if ← lineFeed p then atEnd else singleQuoted p n ('\n' :: read)
    | some c => do
      let _ ← next
      if c == '\x27' then return read.reverse else singleQuoted p n (c :: read)

/-- Reads a byte behind a backslash. -/
def escaped (p : Place) (d : WordDraft) : Read WordDraft := do
  let _ ← next
  match ← next with
  | none => return d.putQuoted p '\\'
  | some '\n' => do
    countLine
    return d
  | some c =>
    let d := if p.keepsBackslash c then d.put '\\' else d
    return d.putQuoted p c

/-- Reads up to a backquote. A backslash keeps its meaning for what is read, except before some
bytes. The number bounds the bytes. -/
def backquoted (isQuoted : Bool) : Nat → List Char → Read (List Char)
  | 0, read => return read.reverse
  | n + 1, read => do
    let _ ← peekJoined
    match ← next with
    | none => fail "EOF in backquote substitution"
    | some '\x60' => return read.reverse
    | some '\\' => do
      match ← next with
      | none => fail "EOF in backquote substitution"
      | some c => do
        if c == '\n' then countLine
        if "\\\x60$".toList.contains c || (isQuoted && c == '"') then
          backquoted isQuoted n (c :: read)
        else backquoted isQuoted n (c :: '\\' :: read)
    | some c => do
      if c == '\n' then countLine
      backquoted isQuoted n (c :: read)

/-- Reads a text of its own with a reading, and goes on behind it where it was. -/
def ofItsOwn {α : Type} (text : List Char) (reading : Read α) : Read α := do
  let before ← get
  let inner := Source.ofText (String.ofList text) before.aliases before.nextDocument
  match reading { inner with documents := before.documents, lastWord := before.lastWord } with
  | .error e => throw e
  | .ok (value, after) => do
    set { before with
      documents := after.documents
      nextDocument := after.nextDocument
      lastWord := after.lastWord }
    return value

/-- Takes bytes as long as they fit. The number bounds them. -/
def takeWhile (fits : Char → Bool) : Nat → List Char → Read (List Char)
  | 0, read => return read.reverse
  | n + 1, read => do
    match ← peekJoined with
    | some c => do
      if fits c then
        let _ ← next
        takeWhile fits n (c :: read)
      else return read.reverse
    | none => return read.reverse

/-! ## Parameters -/

/-- What is known of a parameter in braces before its word is read. -/
inductive Braced where
  | value
  | length
  | bad
  | fallback (kind : Fallback) (orEmpty : Bool)
  | trim (side : Side) (longest : Bool)
  /-- The value, although a colon stands behind the name. -/
  | openValue

/-- The meaning of a sign behind the name of a parameter. -/
def fallbackOf? (c : Char) : Option Fallback :=
  match c with
  | '-' => some .otherwise
  | '+' => some .instead
  | '?' => some .complain
  | '=' => some .assign
  | _ => none

/-- Reads what stands behind the name of a parameter in braces. -/
def bracedUse : Read Braced := do
  let c ← peekJoined
  let _ ← next
  match c with
  | some '\x7d' => return .value
  | some '%' => return .trim .finish (← accept '%')
  | some '#' => return .trim .start (← accept '#')
  | some ':' => do
    let sign ← peekJoined
    let _ ← next
    match sign.bind fallbackOf? with
    | some kind => return .fallback kind true
    | none => return if sign == some '\x7d' then .openValue else .bad
  | _ =>
    match c.bind fallbackOf? with
    | some kind => return .fallback kind false
    | none => return .bad

/-- Reads the name of a parameter in braces, which begins with this byte and is no special one. -/
def bracedName (c : Char) : Read String := do
  let fits := if c.isDigit then Char.isDigit else continuesName
  return String.ofList (← takeWhile fits maxLines [])

/-- Reads the name and the use of a parameter whose length is asked for. -/
def lengthOf (c : Char) : Read (String × Braced) := do
  let name ← bracedName c
  if (← peekJoined) == some '\x7d' then
    let _ ← next
    return (name, .length)
  else return (name, .bad)

/-- Reads the name and the use of a parameter behind an opening brace. A sharp sign in front of the
name asks for the length. -/
def braced : Read (String × Braced) := do
  match ← peekJoined with
  | none => return ("", .bad)
  | some '\x7d' => return ("", .bad)
  | some c =>
    if startsName c || c.isDigit then
      let name ← bracedName c
      return (name, ← bracedUse)
    let _ ← next
    let second ← peekJoined
    if c == '#' then
      if second.any fun d => startsName d || d.isDigit then
        return ← lengthOf (second.getD '_')
      let before ← get
      let _ ← next
      let third ← peekJoined
      if second != some '\x7d' && third == some '\x7d' then
        if second.any isSpecial then
          let _ ← next
          return ((second.map Char.toString).getD "", .length)
        else return ("", .bad)
      set before
      return ("#", ← bracedUse)
    if isSpecial c then return (c.toString, ← bracedUse)
    else return ("", .bad)

/-! ## Places -/

mutual

/-- Reads a place up to its end. The number bounds the depth and the bytes. -/
def place (nested : NestedReading) : Nat → Place → WordDraft → Read Word
  | 0, _, d => return d.toWord
  | n + 1, p, d => do
    if p.kind == .bare && (← get).isAtAliasEnd then return d.toWord
    match ← peek with
    | none => atEnd p d
    | some c =>
      let literally : Read Word := do
        let _ ← next
        place nested n p (d.put c)
      match c, p.kind with
      | '\n', .bare => return d.toWord
      | '\n', _ => do
        if ← lineFeed p then atEnd p (d.put '\n') else place nested n p (d.put '\n')
      | '\\', _ => do place nested n p (← escaped p d)
      | '\x60', _ =>
        if p.isMark then literally
        else do
          let _ ← next
          let text ← backquoted p.isQuoted maxLines []
          place nested n p (d.add (.output (← ofItsOwn text nested.toEnd)))
      | '$', _ => do
        let _ ← next
        place nested n p (← dollar nested n p d)
      | '\x27', .bare | '\x27', .braces => do
        let _ ← next
        let text ← singleQuoted p maxLines []
        place nested n p
          (d.add (.quoted (if text.isEmpty then [] else [.text (String.ofList text)])))
      | '"', .bare => do
        let _ ← next
        let word ← place nested n (p.like (.quotes false)) .empty
        place nested n p (d.add (.quoted word))
      | '"', .braces => do
        let _ ← next
        let word ← place nested n (p.like (.quotes true)) .empty
        place nested n p (d.add (.quoted word))
      | '"', .quotes _ => do
        let _ ← next
        return d.toWord
      | '"', .quotedBraces inner => do
        let _ ← next
        place nested n (p.like (.quotedBraces !inner)) d
      | '\x7d', .braces | '\x7d', .quotedBraces false => do
        let _ ← next
        return d.toWord
      | '(', .expression depth => do
        let _ ← next
        place nested n (p.like (.expression (depth + 1))) (d.put c)
      | ')', .expression (depth + 1) => do
        let _ ← next
        place nested n (p.like (.expression depth)) (d.put c)
      | ')', .expression 0 => do
        let _ ← next
        if ← accept ')' then return d.toWord else place nested n p (d.put c)
      | _, .bare => if "<>();&| \t".toList.contains c then return d.toWord else literally
      | _, _ => literally

/-- Reads what a dollar sign begins. -/
def dollar (nested : NestedReading) : Nat → Place → WordDraft → Read WordDraft
  | 0, _, d => return d
  | n + 1, p, d => do
    match ← peekJoined with
    | none => return d.put '$'
    | some c => do
      if p.isMark || !(c == '(' || c == '\x7b' || startsName c || isSpecial c) then
        return d.put '$'
      let _ ← next
      if c == '(' then
        if ← accept '(' then
          return d.add (.arithmetic (← place nested n (p.like (.expression 0)) .empty))
        else return d.add (.output (← nested.inParentheses))
      else if c == '\x7b' then
        let (name, use) ← braced
        match use with
        | .value => return d.add (.parameter name .value)
        | .length => return d.add (.parameter name .length)
        | .bad => do
          let _ ← place nested n p.ofWord .empty
          return d.add (.parameter name .bad)
        | .openValue => do
          let _ ← place nested n p.ofWord .empty
          return d.add (.parameter name .value)
        | .fallback kind orEmpty => do
          let word ← place nested n p.ofWord .empty
          return d.add (.parameter name (.fallback kind orEmpty word))
        | .trim side longest => do
          let word ← place nested n (p.like .braces) .empty
          return d.add (.parameter name (.trim side longest word))
      else if startsName c then
        let rest ← takeWhile continuesName maxLines []
        return d.add (.parameter (String.ofList (c :: rest)) .value)
      else return d.add (.parameter c.toString .value)

end

end Read

end AdapterReport.Shell
