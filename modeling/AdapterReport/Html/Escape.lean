/-!
# Text in markup

`escape` writes text so that it cannot be taken for markup. Five passes go over the text, one for
each reserved character, and each writes an entity in place of its character. The pass for `&`
comes first, since every entity has an `&` of its own.
-/

namespace AdapterReport.Html

/-- Writes a text in place of every occurrence of a character. -/
def replaceEach (c : Char) (replacement s : String) : String :=
  String.ofList (s.toList.flatMap fun d => if d = c then replacement.toList else [d])

/-- The reserved characters with their entities, in the order of the passes. -/
def entities : List (Char × String) :=
  [('&', "&amp;"), ('<', "&lt;"), ('>', "&gt;"), ('\x22', "&quot;"), ('\x27', "&#39;")]

/-- A text in markup. -/
def escape (s : String) : String :=
  entities.foldl (fun s e => replaceEach e.1 e.2 s) s

end AdapterReport.Html
