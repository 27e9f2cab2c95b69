/-!
# Occurrences of a text in a text

Whether a text occurs in another, and the text in which every occurrence, from left to right and without overlap,
is replaced.

Key definitions: `occursIn`, `replaceAll`.
-/

namespace PortGrid.Text

/-- Whether `needle` stands somewhere in the text. -/
def occursIn (needle : List Char) : List Char → Bool
  | [] => needle.isEmpty
  | c :: cs => needle.isPrefixOf (c :: cs) || occursIn needle cs

/-- The text after its first `skip` characters, with every occurrence of `needle` replaced. -/
def replaceFrom (needle replacement : List Char) : Nat → List Char → List Char
  | _, [] => []
  | skip + 1, _ :: cs => replaceFrom needle replacement skip cs
  | 0, c :: cs =>
    if needle.isPrefixOf (c :: cs) then
      replacement ++ replaceFrom needle replacement (needle.length - 1) cs
    else c :: replaceFrom needle replacement 0 cs

/-- The text with every occurrence of the non-empty `needle` replaced. -/
def replaceAll (needle replacement text : List Char) : List Char :=
  replaceFrom needle replacement 0 text

end PortGrid.Text
