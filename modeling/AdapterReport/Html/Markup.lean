import AdapterReport.Html.Escape

/-!
# Markup

A page is a list of pieces: tags, the fixed text of the template, and text from outside. Text from
outside is escaped wherever it stands, in the values of attributes too.
-/

namespace AdapterReport.Html

/-- The marks around the value of an attribute. -/
inductive Quotes where
  | none
  | single
  | double
  deriving DecidableEq

/-- The mark itself. -/
def Quotes.text : Quotes → String
  | .none => ""
  | .single => "\x27"
  | .double => "\""

/-- A part of the value of an attribute. -/
inductive ValuePart where
  /-- A part of the template. -/
  | fixed (s : String)
  /-- Text from outside. -/
  | inserted (s : String)
  deriving DecidableEq

/-- A part of a value, as it is written. -/
def ValuePart.text : ValuePart → String
  | .fixed s => s
  | .inserted s => escape s

/-- An attribute of a tag. -/
structure Attribute where
  name : String
  quotes : Quotes
  value : List ValuePart
  deriving DecidableEq

/-- An attribute, as it is written. -/
def Attribute.text (a : Attribute) : String :=
  a.name ++ "=" ++ a.quotes.text ++ String.join (a.value.map ValuePart.text) ++ a.quotes.text

/-- A piece of a page. -/
inductive Piece where
  /-- The declaration at the head of a page. -/
  | declaration (s : String)
  | openTag (name : String) (attributes : List Attribute)
  | closeTag (name : String)
  /-- Text of the template, without any tag. -/
  | fixed (s : String)
  /-- Text from outside. -/
  | inserted (s : String)
  deriving DecidableEq

/-- A piece, as it is written. -/
def Piece.text : Piece → String
  | .declaration s => "<!" ++ s ++ ">"
  | .openTag name attributes =>
    "<" ++ name ++ String.join (attributes.map fun a => " " ++ a.text) ++ ">"
  | .closeTag name => "</" ++ name ++ ">"
  | .fixed s => s
  | .inserted s => escape s

/-- Pieces, as they are written, each on its own. -/
def writes (pieces : List Piece) : List String :=
  pieces.map Piece.text

/-- The text of pieces. -/
def render (pieces : List Piece) : String :=
  String.join (writes pieces)

/-- A tag without attributes. -/
def tag (name : String) : Piece :=
  .openTag name []

/-- Pieces between an opening and a closing tag. -/
def element (name : String) (inner : List Piece) : List Piece :=
  tag name :: inner ++ [.closeTag name]

end AdapterReport.Html
