import PortGrid.Text.Ranges

/-!
# Blank characters

The characters with the Unicode property White_Space: what `trim` removes from the ends of a text
and what may stand around the dash of a range pattern.

Key definitions: `isBlank`, `trim`, `trimmed?`.
-/

set_option maxRecDepth 8000

namespace PortGrid.Text

/-- The code points with the property White_Space. -/
def blankRanges : Ranges := [
  (0x0009, 0x000D), (0x0020, 0x0020), (0x0085, 0x0085), (0x00A0, 0x00A0), (0x1680, 0x1680), (0x2000, 0x200A),
  (0x2028, 0x2029), (0x202F, 0x202F), (0x205F, 0x205F), (0x3000, 0x3000)]

/-- A character that counts as blank space. -/
def isBlank (c : Char) : Bool := blankRanges.contains c

/-- The characters of a text without the blanks at its two ends. -/
def trimChars (cs : List Char) : List Char :=
  ((cs.dropWhile isBlank).reverse.dropWhile isBlank).reverse

def trim (s : String) : String :=
  String.ofList (trimChars s.toList)

/-- The trimmed text, or nothing when the text is blank. -/
def trimmed? (s : String) : Option String :=
  let t := trim s
  if t.isEmpty then none else some t

end PortGrid.Text
