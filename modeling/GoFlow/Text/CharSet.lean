/-!
# Sets of characters

A set of characters as a table of ranges of code points, in ascending order.
-/

namespace GoFlow

/-- Ranges of code points, each with its first and its last member. -/
abbrev CharSet := List (Nat × Nat)

/-- Whether the character is in one of the ranges. -/
def CharSet.contains (s : CharSet) (c : Char) : Bool :=
  s.any fun (first, last) => first ≤ c.toNat && c.toNat ≤ last

end GoFlow
