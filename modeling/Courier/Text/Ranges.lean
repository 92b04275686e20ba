import Courier.Text.Basic

/-!
# Ranges of code points

Properties of characters are given by tables of ranges.
-/

namespace Courier

/-- Ranges of code points by their first and last. -/
abbrev Ranges := List (Nat × Nat)

/-- The code point lies in one of the ranges. -/
def Ranges.has (rs : Ranges) (c : CodePoint) : Bool :=
  rs.any fun (first, last) => first ≤ c.val && c.val ≤ last

end Courier
