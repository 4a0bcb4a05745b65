import AdapterReport.Json.Token

/-!
# Drafts of JSON documents

A draft is a document read as far as its text allows: where the text is not JSON, or ends, the
draft says so in that place. `Draft.ofTokens` reads one. A reader of some type walks the draft
from left to right and reports the first thing that it cannot accept; `Draft.skip` is the reader
that accepts every value.
-/

namespace AdapterReport.Json

/-- What stands where the name of a member should. -/
inductive Name where
  | text (scan : TextScan)
  /-- Something else. -/
  | misplaced
  /-- The text ends. -/
  | missing

/-- A document read as far as its text allows. -/
inductive Draft where
  | null
  | bool (b : Bool)
  | number (scan : NumberScan)
  | text (scan : TextScan)
  /-- Items, and why the array is not closed behind the last one, if so. A comma always has an
  item behind it. -/
  | array (items : List Draft) (cut : Option Fault)
  /-- Members, and why the object is not closed behind the last one, if so. A comma always has a
  member behind it, and so has an opening bracket that is not closed at once. -/
  | object (members : List (Name × Draft)) (cut : Option Fault)
  /-- The text ends where a value should begin. -/
  | missing
  /-- No value, where there should be one. -/
  | garbled (fault : Fault)

namespace Draft

/-! ## Reading a draft -/

/-- A bracket that is still open, with what it holds so far, the last part first. -/
inductive Open where
  | array (items : List Draft)
  | object (members : List (Name × Draft)) (name : Name)

/-- What has to come next. -/
inductive Expected where
  | value
  | itemOrClose
  | separator
  | nameOrClose
  | name
  | colon

/-- The draft of the whole document, once `inner` is as far as it goes. -/
def within (inner : Draft) : List Open → Draft
  | [] => inner
  | .array items :: outer =>
    within (.array (items.reverse ++ [inner]) (some .malformed)) outer
  | .object members name :: outer =>
    within (.object (members.reverse ++ [(name, inner)]) (some .malformed)) outer

/-- The draft of a document that ends, or is no JSON, behind a finished value. -/
def cutAt (fault : Fault) : List Open → Draft
  | [] => .garbled fault
  | .array items :: outer => within (.array items.reverse (some fault)) outer
  | .object members _ :: outer => within (.object members.reverse (some fault)) outer

/-- Where the reading of a document stands: the brackets that are open, and what has to come
next. A finished document is `done`, with the value and whether anything follows it. -/
inductive Progress where
  | reading (outer : List Open) (expected : Expected)
  | done (draft : Draft) (trailing : Bool)

/-- The progress once a value is complete in the innermost open bracket. -/
def Progress.complete (value : Draft) : List Open → Progress
  | [] => .done value false
  | .array items :: outer => .reading (.array (value :: items) :: outer) .separator
  | .object members name :: outer =>
    .reading (.object ((name, value) :: members) name :: outer) .separator

/-- The progress once no reader gets any further. -/
def Progress.stop (inner : Draft) (outer : List Open) : Progress :=
  .done (within inner outer) false

/-- The progress with a token where a value should begin. -/
def Progress.value (outer : List Open) : Token → Progress
  | .openArray => .reading (.array [] :: outer) .itemOrClose
  | .openObject => .reading (.object [] .missing :: outer) .nameOrClose
  | .null => complete .null outer
  | .bool b => complete (.bool b) outer
  | .number scan => if scan.broken.isSome then stop (.number scan) outer
    else complete (.number scan) outer
  | .text scan => if scan.broken.isSome then stop (.text scan) outer
    else complete (.text scan) outer
  | .garbled fault => stop (.garbled fault) outer
  | .closeArray | .closeObject | .colon | .comma => stop (.garbled .malformed) outer

/-- An object that breaks off in the name of its last member. The members before it are given with
the last one first. -/
def nameless (members : List (Name × Draft)) (name : Name) : Draft :=
  .object (members.reverse ++ [(name, .missing)]) (some .malformed)

/-- The progress with a token where a name should stand. -/
def Progress.name (outer : List Open) (token : Token) : Progress :=
  match outer with
  | .object members _ :: outer =>
    match token with
    | .text scan =>
      if scan.broken.isSome then stop (nameless members (.text scan)) outer
      else .reading (.object members (.text scan) :: outer) .colon
    | _ => stop (nameless members .misplaced) outer
  | outer => stop (.garbled .malformed) outer

/-- The progress with a token where a comma or a closing bracket should stand. -/
def Progress.separator : List Open → Token → Progress
  | .array items :: outer, .comma => .reading (.array items :: outer) .value
  | .array items :: outer, .closeArray => complete (.array items.reverse none) outer
  | .object members name :: outer, .comma => .reading (.object members name :: outer) .name
  | .object members _ :: outer, .closeObject => complete (.object members.reverse none) outer
  | outer, _ => .done (cutAt .malformed outer) false

/-- The progress with one more token. -/
def Progress.next : Progress → Token → Progress
  | .done draft _, _ => .done draft true
  | .reading outer .value, token => value outer token
  | .reading (.array items :: outer) .itemOrClose, .closeArray =>
    complete (.array items.reverse none) outer
  | .reading outer .itemOrClose, token => value outer token
  | .reading outer .separator, token => separator outer token
  | .reading (.object members _ :: outer) .nameOrClose, .closeObject =>
    complete (.object members.reverse none) outer
  | .reading outer .nameOrClose, token => name outer token
  | .reading outer .name, token => name outer token
  | .reading outer .colon, .colon => .reading outer .value
  | .reading outer .colon, _ => stop (.garbled .malformed) outer

/-- The draft when the text ends, and whether anything follows its value. -/
def Progress.finish : Progress → Draft × Bool
  | .done draft trailing => (draft, trailing)
  | .reading outer .separator => (cutAt .ended outer, false)
  | .reading outer .itemOrClose => (cutAt .ended outer, false)
  | .reading (.object members _ :: outer) .nameOrClose
  | .reading (.object members _ :: outer) .name =>
    (within (.object (members.reverse ++ [(.missing, .missing)]) (some .ended)) outer, false)
  | .reading outer _ => (within .missing outer, false)

/-- The draft of the first value among the tokens, and whether anything follows it. -/
def ofTokens (tokens : List Token) : Draft × Bool :=
  (tokens.foldl Progress.next (.reading [] .value)).finish

/-! ## Passing over a draft -/

/-- Nothing, unless there is a fault. -/
def pass : Option Fault → Except Fault Unit
  | none => .ok ()
  | some fault => .error fault

/-- The first reason for which a reader cannot pass over a name. -/
def skipName : Name → Except Fault Unit
  | .text scan => pass scan.broken
  | .misplaced => .error .malformed
  | .missing => .error .ended

mutual

/-- The first reason for which a reader that wants nothing of a value cannot pass over it. -/
def skip : Draft → Except Fault Unit
  | .null | .bool _ => .ok ()
  | .number scan => pass scan.broken
  | .text scan => pass scan.broken
  | .array items cut => do skipItems items; pass cut
  | .object members cut => do skipMembers members; pass cut
  | .missing => .error .ended
  | .garbled fault => .error fault

/-- Passes over items one after the other. -/
def skipItems : List Draft → Except Fault Unit
  | [] => .ok ()
  | d :: rest => do skip d; skipItems rest

/-- Passes over members one after the other. -/
def skipMembers : List (Name × Draft) → Except Fault Unit
  | [] => .ok ()
  | (name, d) :: rest => do skipName name; skip d; skipMembers rest

end

end Draft

end AdapterReport.Json
