/-!
# Sets of characters given by ranges

A property of characters is kept as a list of closed intervals of code points.
`Ranges.contains_iff` says that membership is lying in one of them.
-/

namespace TurnTaking.Text

/-- Closed intervals of code points, first and last. -/
abbrev Ranges := List (Nat × Nat)

/-- Whether a code point lies in one of the intervals. -/
def Ranges.contains (rs : Ranges) (code : Nat) : Bool :=
  rs.any fun r => r.1 ≤ code && code ≤ r.2

/-- Whether a character lies in one of the intervals. -/
def Ranges.has (rs : Ranges) (c : Char) : Bool :=
  rs.contains c.toNat

theorem Ranges.contains_iff {rs : Ranges} {code : Nat} :
    rs.contains code = true ↔ ∃ r ∈ rs, r.1 ≤ code ∧ code ≤ r.2 := by
  simp [Ranges.contains]

end TurnTaking.Text
