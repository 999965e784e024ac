/-
# Sets of characters given by ranges of code points

The character classes that the library needs beyond ASCII are finite unions of ranges of code
points.  A class is a list of its ranges, and a character belongs to the class exactly when its
code point lies in one of them (`Ranges.contains_iff`).
-/

namespace NodeDemand.Text

/-- A set of code points, as the list of its ranges; both ends of a range belong to the set. -/
abbrev Ranges := List (Nat × Nat)

namespace Ranges

/-- Whether a character lies in one of the ranges. -/
def contains (rs : Ranges) (c : Char) : Bool :=
  rs.any fun r => decide (r.1 ≤ c.toNat) && decide (c.toNat ≤ r.2)

theorem contains_iff {rs : Ranges} {c : Char} :
    rs.contains c = true ↔ ∃ r ∈ rs, r.1 ≤ c.toNat ∧ c.toNat ≤ r.2 := by
  simp [contains]

end Ranges

end NodeDemand.Text
