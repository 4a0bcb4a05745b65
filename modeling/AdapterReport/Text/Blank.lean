/-!
# Blanks

The white space of text: the characters with the White_Space property. `trim` drops it at the ends
of a text.
-/

namespace AdapterReport.Text

/-- Whether a character has the White_Space property. -/
def isBlank (c : Char) : Bool :=
  let n := c.toNat
  (9 ≤ n && n ≤ 13) || n == 0x20 || n == 0x85 || n == 0xA0 || n == 0x1680 ||
    (0x2000 ≤ n && n ≤ 0x200A) || n == 0x2028 || n == 0x2029 || n == 0x202F || n == 0x205F ||
    n == 0x3000

/-- The characters from the first one on that is not blank. -/
def dropBlanks (s : List Char) : List Char :=
  s.dropWhile isBlank

/-- The characters up to the last one that is not blank. -/
def dropBlanksEnd (s : List Char) : List Char :=
  (s.reverse.dropWhile isBlank).reverse

/-- The text without the blanks at its two ends. -/
def trim (s : String) : String :=
  String.ofList (dropBlanksEnd (dropBlanks s.toList))

/-- Whether a text has no character but blanks. -/
def isBlankText (s : String) : Bool :=
  s.toList.all isBlank

end AdapterReport.Text
