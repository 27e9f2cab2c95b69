/-!
# Sets of characters given by ranges of code points

A Unicode property is a set of characters. Here it is a list of ranges of code points, both ends included, in
ascending order, and a character belongs to the set if one of the ranges holds its code point.

Key definitions: `Ranges`, `Ranges.contains`.
-/

namespace PortGrid.Text

/-- Ranges of code points, each given by its first and its last. -/
abbrev Ranges := List (Nat × Nat)

/-- Whether one of the ranges holds the character. -/
def Ranges.contains (ranges : Ranges) (c : Char) : Bool :=
  ranges.any fun r => r.1 ≤ c.toNat && c.toNat ≤ r.2

end PortGrid.Text
