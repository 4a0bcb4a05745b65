/-!
# Lines and pieces

`lines` cuts a text at its line feeds; a carriage return before a line feed goes with it.
`splitAtFirst` and `splitOn` cut at a character, `beforeFirst` keeps what stands before it, and
`pad` fills a text up to a width in characters.
-/

namespace AdapterReport.Text

/-- The lines of a list of characters. A text that ends in a line feed has no line after it. -/
def lineChars : List Char → List (List Char)
  | [] => []
  | '\r' :: '\n' :: s => [] :: lineChars s
  | '\n' :: s => [] :: lineChars s
  | c :: s =>
    match lineChars s with
    | [] => [[c]]
    | line :: rest => (c :: line) :: rest

/-- The lines of a text. -/
def lines (s : String) : List String :=
  (lineChars s.toList).map String.ofList

/-- What stands before and after the first `sep`, if there is one. -/
def splitAtFirst (sep : Char) (s : List Char) : Option (List Char × List Char) :=
  match s.dropWhile (· != sep) with
  | [] => none
  | _ :: after => some (s.takeWhile (· != sep), after)

/-- The pieces between the occurrences of `sep`; a text without any is one piece. -/
def splitOn {α : Type} [BEq α] (sep : α) : List α → List (List α)
  | [] => [[]]
  | c :: s =>
    if c == sep then [] :: splitOn sep s
    else match splitOn sep s with
      | [] => [[c]]
      | piece :: rest => (c :: piece) :: rest

/-- The text followed by as many spaces as its width lacks. -/
def pad (width : Nat) (s : String) : String :=
  s ++ String.ofList (List.replicate (width - s.length) ' ')

/-- The character `c`, `n` times over. -/
def times (n : Nat) (c : Char) : String :=
  String.ofList (List.replicate n c)

/-- Whether `s` occurs in `t` as consecutive characters. -/
def occursIn (s : List Char) : List Char → Bool
  | [] => s.isEmpty
  | c :: t => s.isPrefixOf (c :: t) || occursIn s t

end AdapterReport.Text
