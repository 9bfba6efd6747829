/-!
# Text/Ranges — classes of characters given by ranges of code points

A class is a list of inclusive ranges.  Membership is decided by looking the code point up, so a
class read from a table of the Unicode character database and a class written by hand are used in
the same way.
-/

namespace Reverb.Text

/-- A class of characters: inclusive ranges of code points, in ascending order. -/
structure Ranges where
  bounds : List (Nat × Nat)

namespace Ranges

/-- The character's code point lies in one of the ranges. -/
def has (table : Ranges) (c : Char) : Bool :=
  table.bounds.any fun bound => bound.1 ≤ c.toNat && c.toNat ≤ bound.2

theorem has_iff (table : Ranges) (c : Char) :
    table.has c = true ↔ ∃ bound ∈ table.bounds, bound.1 ≤ c.toNat ∧ c.toNat ≤ bound.2 := by
  simp [has]

end Ranges

end Reverb.Text
