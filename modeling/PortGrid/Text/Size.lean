/-!
# The size of a text

Where a bound on a text is in bytes, its characters are counted with their sizes in UTF-8.

Key definition: `byteCount`.
-/

namespace PortGrid.Text

/-- How many bytes the characters take in UTF-8. -/
def byteCount : List Char → Nat
  | [] => 0
  | c :: cs => c.utf8Size + byteCount cs

end PortGrid.Text
