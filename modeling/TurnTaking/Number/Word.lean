/-!
# Words

How many words of 64 bits there are, and how many of them have no sign bit.
-/

namespace TurnTaking.Number

/-- The number of words: two to the power of 64. -/
def wordLimit : Nat :=
  18446744073709551616

/-- The number of words without a sign bit: two to the power of 63. -/
def signLimit : Nat :=
  9223372036854775808

theorem wordLimit_eq : wordLimit = Nat.pow 2 64 :=
  rfl

theorem signLimit_eq : signLimit = Nat.pow 2 63 :=
  rfl

end TurnTaking.Number
