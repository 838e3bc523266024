/-!
# Ranges of code points

A set of characters given by closed ranges of code points, as the tables of Unicode properties are.
-/

set_option autoImplicit false

namespace Beans.Text

/-- Membership of a character in a union of closed ranges of code points. -/
def inRanges (ranges : List (Nat × Nat)) (c : Char) : Bool :=
  ranges.any fun (lo, hi) => decide (lo ≤ c.toNat) && decide (c.toNat ≤ hi)

/-- A character is in the ranges exactly if one of them holds its code point. -/
theorem inRanges_iff {ranges : List (Nat × Nat)} {c : Char} :
    inRanges ranges c = true ↔ ∃ r ∈ ranges, r.1 ≤ c.toNat ∧ c.toNat ≤ r.2 := by
  simp [inRanges, List.any_eq_true]

end Beans.Text
