import AdapterReport.Text.Digits
import AdapterReport.Tool.Shell.Word

/-!
# Tokens

Reads the tokens of a command: operators, words, keywords, and operators that change what a
descriptor stands for. A word may stand for an alias. The documents that a line asks for are read
where the line ends.
-/

namespace AdapterReport.Shell.Read

/-- What is looked for in front of a token and in a word. -/
structure Look where
  /-- Whether line feeds are left out. -/
  skipsLines : Bool
  keywords : Bool
  aliases : Bool

/-- Nothing is looked for. -/
def Look.plain : Look := ⟨false, false, false⟩

/-- What is looked for where a command may begin behind line feeds. -/
def Look.command : Look := ⟨true, true, true⟩

/-! ## Documents -/

/-- Reads the lines of a document in which nothing is replaced. The number bounds the bytes. -/
def plainText (ending : Option DocumentEnd) : Nat → List Char → Read (List Char)
  | 0, read => return read.reverse
  | n + 1, read => do
    match ← next with
    | none => return read.reverse
    | some '\n' => do
      countLine
      if ← endsDocument ending then return ('\n' :: read).reverse
      else plainText ending n ('\n' :: read)
    | some c => plainText ending n (c :: read)

/-- Reads a document. -/
def document (nested : NestedReading) (p : PendingDocument) : Read Unit := do
  let ending := some ⟨p.mark.toList, p.stripsTabs⟩
  if p.expands then skipJoins maxLines
  let content ←
    if ← endsDocument ending then pure (Document.plain "")
    else if p.expands then
      pure (.expanded (← place nested maxLines ⟨.document, ending, false⟩ .empty))
    else pure (.plain (String.ofList (← plainText ending maxLines [])))
  modify fun s => { s with documents := (p.number, content) :: s.documents }

/-- Reads the documents that were asked for. -/
def documents (nested : NestedReading) : Read Unit := do
  let pending := (← get).pending
  modify fun s => { s with pending := [] }
  pending.forM (document nested)

/-- Takes the documents that were asked for as empty. -/
def withoutDocuments : Read Unit :=
  modify fun s => { s with
    documents := s.pending.map (fun p => (p.number, Document.plain "")) ++ s.documents
    pending := [] }

/-! ## Tokens -/

/-- Takes a comment up to the end of its line. The number bounds the bytes. -/
def comment : Nat → Read Unit
  | 0 => return
  | n + 1 => do
    let c ← peek
    if c.isSome && c != some '\n' then
      let _ ← next
      comment n

/-- An operator that may be written twice. -/
def doubled (c : Char) : Read Token := do
  let sign := c.toString
  return .operator (if ← accept c then sign ++ sign else sign)

/-- Reads an operator that changes what a descriptor stands for. -/
def redirectOperator (sign : Char) (descriptor : Option Nat) : Read Token := do
  let _ ← next
  let second ← peekJoined
  let token (standard : Nat) (o : RedirectOperator) : Token :=
    .redirect (descriptor.getD standard) o
  if sign == '>' then
    match second with
    | some '>' => do
      let _ ← next
      return token 1 (.file .append)
    | some '|' => do
      let _ ← next
      return token 1 (.file .overwrite)
    | some '&' => do
      let _ ← next
      return token 1 .copy
    | _ => return token 1 (.file .write)
  else
    match second with
    | some '<' => do
      let _ ← next
      return token 0 (.document (← accept '-'))
    | some '&' => do
      let _ ← next
      return token 0 .copy
    | some '>' => do
      let _ ← next
      return token 0 (.file .both)
    | _ => return token 0 (.file .read)

/-- Reads a word, or an operator that changes what the descriptor with the number in front of it
stands for. -/
def wordToken (nested : NestedReading) (isMark : Bool) : Read Token := do
  let w ← place nested maxLines ⟨.bare, none, isMark⟩ .empty
  let sign ← if (← get).isAtAliasEnd then pure none else peek
  let descriptor : Option (Option Nat) :=
    match w.plain?.map String.toList with
    | some [] => some none
    | some [d] => if d.isDigit then some (some (Text.digitValue d)) else none
    | _ => none
  match sign, descriptor with
  | some '<', some d => redirectOperator '<' d
  | some '>', some d => redirectOperator '>' d
  | _, _ => do
    modify fun s => { s with lastWord := w }
    return .word w

/-- Reads a token from the text. The number bounds what stands in front of it. -/
def freshToken (nested : NestedReading) (isMark : Bool) : Nat → Read Token
  | 0 => return .endOfFile
  | n + 1 => do
    match ← peek with
    | none => do
      let _ ← next
      return .endOfFile
    | some c => do
      match c with
      | ' ' | '\t' => do
        let _ ← next
        freshToken nested isMark n
      | '#' => do
        comment maxLines
        freshToken nested isMark n
      | '\n' => do
        let _ ← next
        countLine
        return .newline
      | '&' | '|' | ';' => do
        let _ ← next
        doubled c
      | '(' | ')' => do
        let _ ← next
        return .operator c.toString
      | '\\' => do
        let s ← get
        skipJoins 1
        if s.line != (← get).line then freshToken nested isMark n
        else
          modify passAliasEnds
          wordToken nested isMark
      | _ => do
        modify passAliasEnds
        wordToken nested isMark
where
  /-- The source without ends of aliases in front of its next byte. -/
  passAliasEnds (s : Source) : Source :=
    match Source.split? s.rest s.expectsAlias with
    | some (c, rest, blank) => { s with rest := .char c :: rest, expectsAlias := blank }
    | none => s

/-- The token that comes next. -/
def nextToken (nested : NestedReading) (isMark : Bool) : Read Token := do
  match (← get).pushed with
  | some t => do
    modify fun s => { s with pushed := none }
    return t
  | none => freshToken nested isMark maxLines

/-- Reads tokens up to one that is no line feed, and the documents where lines end. The number
bounds the lines. -/
def behindLines (nested : NestedReading) : Nat → Token → Read Token
  | 0, t => return t
  | n + 1, t =>
    match t with
    | .newline => do
      documents nested
      behindLines nested n (← nextToken nested false)
    | _ => return t

/-- Reads a token. An alias is replaced, and the reading begins again; the number bounds these
times. -/
def tokenAfterAliases (nested : NestedReading) : Nat → Look → Read Token
  | 0, _ => return .endOfFile
  | n + 1, look => do
    let t ← nextToken nested false
    let t ← if look.skipsLines then behindLines nested maxLines t else pure t
    let s ← get
    let look := { look with aliases := look.aliases || s.expectsAlias }
    set { s with expectsAlias := false }
    match t with
    | .word w =>
      match w.plain? with
      | none => return t
      | some text =>
        if look.keywords && Token.keywords.contains text then return .keyword text
        if !look.aliases then return t
        match (← get).alias? text with
        | none => return t
        | some meaning => do
          if !meaning.isEmpty then modify fun s => s.insert text meaning
          tokenAfterAliases nested n look
    | _ => return t

/-- Reads a token. -/
def token (nested : NestedReading) (look : Look) : Read Token := do
  modify fun s => { s with expectsAlias := false }
  tokenAfterAliases nested maxLines look

/-- Leaves a token for the next time. -/
def push (t : Token) : Read Unit := modify fun s => { s with pushed := some t }

/-- Ends the reading because of a token, where another one may have been expected. -/
def unexpected {α : Type} (t : Token) (expected : Option Token) : Read α :=
  fail (t.shown ++ " unexpected" ++
    match expected with
    | some e => " (expecting " ++ e.shown ++ ")"
    | none => "")

/-! ## Redirects -/

/-- The redirect that an operator and the word behind it make. -/
def redirect (nested : NestedReading) (descriptor : Nat) (o : RedirectOperator) :
    Read Redirect := do
  let t ← match o with
    | .document _ => do
      match ← nextToken nested true with
      | .word w => pure (Token.word w)
      | t => unexpected t none
    | _ => token nested .plain
  match t with
  | .word w =>
    match o with
    | .file opening => return .file descriptor opening w
    | .document stripsTabs => do
      let s ← get
      let isPlain := w.plain?.isSome
      let p : PendingDocument := ⟨s.nextDocument, w.spelled maxLines, stripsTabs, isPlain⟩
      set { s with pending := s.pending ++ [p], nextDocument := s.nextDocument + 1 }
      return .document descriptor p.number
    | .copy =>
      match w.plain?.map String.toList with
      | some ['-'] => return .close descriptor
      | some [d] =>
        return if d.isDigit then .copy descriptor (Text.digitValue d) else .copyOf descriptor w
      | _ => return .copyOf descriptor w
  | t => unexpected t none

end AdapterReport.Shell.Read
