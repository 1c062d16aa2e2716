import Mathlib.Algebra.Order.Field.Basic
import Mathlib.Data.Rat.Cast.Order
import Mathlib.Tactic.FieldSimp
import Mathlib.Tactic.NormNum
import TurnTaking.Proofs.Number.Rounding
/-!
# The number nearest to a decimal

A decimal is read without raising its power of ten where that would only show that the number is
infinite or zero. The answer is the same as if the power had been raised, so that what is known of
rounding a ratio is known of reading any decimal.

The main statements are `ofDecimal_eq_nearest`, that a decimal is read as the number nearest to it,
and `div_decimalRatio`, which ratio that is.
-/

namespace TurnTaking.Number

/-! ## Steps and units -/

/-- The binary places of the smallest step behind the point. -/
@[irreducible] def placesBehind : Nat :=
  1074

/-- The binary places before the point that are too many to be finite. -/
@[irreducible] def placesBefore : Nat :=
  1024

theorem stepsPerUnit_eq : stepsPerUnit = 2 ^ placesBehind := by
  have hplaces : placesBehind = 1074 := by rw [placesBehind]
  delta stepsPerUnit
  rw [← hplaces]
  rfl

theorem stepsLimit_eq : stepsLimit = 2 ^ (placesBefore + placesBehind) := by
  have hplaces : placesBefore + placesBehind = 2098 := by rw [placesBefore, placesBehind]
  delta stepsLimit
  rw [← hplaces]
  rfl

theorem stepsLimit_eq_mul : stepsLimit = 2 ^ placesBefore * stepsPerUnit := by
  rw [stepsLimit_eq, stepsPerUnit_eq, Nat.pow_add]

theorem stepsPerUnit_pos : 0 < stepsPerUnit := by
  rw [stepsPerUnit_eq]
  exact Nat.two_pow_pos _

theorem stepsLimit_pos : 0 < stepsLimit := by
  rw [stepsLimit_eq]
  exact Nat.two_pow_pos _

namespace Binary64

/-! ## Ratios far from the middle -/

variable {num den : Nat}

theorem nearest_of_lt (negative : Bool) (h : roundSteps num den < stepsLimit) :
    nearest negative num den = finite negative (roundSteps num den) := by
  rw [nearest]
  exact if_pos h

theorem nearest_of_le (negative : Bool) (h : stepsLimit ≤ roundSteps num den) :
    nearest negative num den = infinite negative := by
  rw [nearest]
  exact if_neg (Nat.not_lt.2 h)

/-- Less than half of a step is rounded to nothing. -/
theorem roundSteps_eq_zero (h : 2 * num < den) : roundSteps num den = 0 := by
  have hq : num / den = 0 := Nat.div_eq_of_lt (by omega)
  have hr : num % den = num := Nat.mod_eq_of_lt (by omega)
  rw [roundSteps_eq, hq, spareBits, if_pos rfl, Nat.pow_zero, Nat.mul_one, Nat.mul_one, roundEven,
    hq, hr, if_pos h]

theorem nearest_eq_zero (negative : Bool) (h : 2 * num < den) :
    nearest negative num den = finite negative 0 := by
  have hzero := roundSteps_eq_zero h
  rw [nearest_of_lt negative (by rw [hzero]; exact stepsLimit_pos), hzero]

/-- A ratio that is no less than the least infinite power of two is infinite. -/
theorem nearest_eq_infinite (negative : Bool) (h : stepsLimit ≤ num) :
    nearest negative num 1 = infinite negative := by
  apply nearest_of_le
  calc stepsLimit = roundSteps stepsLimit 1 := by rw [stepsLimit_eq, roundSteps_two_pow]
    _ ≤ roundSteps num 1 := roundSteps_mono h 1

/-! ## Powers of ten -/

theorem two_pow_mul_le {a b : Nat} (h : 2 ^ a ≤ 10 ^ b) (k : Nat) : 2 ^ (a * k) ≤ 10 ^ (b * k) := by
  rw [Nat.pow_mul, Nat.pow_mul]
  exact Nat.pow_le_pow_left h k

theorem two_pow_le_ten_pow {exponent : Int} (h : 310 ≤ exponent) :
    2 ^ placesBefore ≤ 10 ^ exponent.toNat := by
  have hfew : 2 ^ 205 ≤ 10 ^ 62 := by norm_num
  calc 2 ^ placesBefore ≤ 2 ^ (205 * (exponent.toNat / 62)) := by
        apply Nat.pow_le_pow_right (by decide)
        rw [placesBefore]
        omega
    _ ≤ 10 ^ (62 * (exponent.toNat / 62)) := two_pow_mul_le hfew _
    _ ≤ 10 ^ exponent.toNat := Nat.pow_le_pow_right (by decide) (Nat.mul_div_le _ _)

/-! ## Decimals -/

theorem decimalRatio_of_nonneg (digits : Nat) {exponent : Int} (h : 0 ≤ exponent) :
    decimalRatio digits exponent = (digits * 10 ^ exponent.toNat * stepsPerUnit, 1) := by
  rw [decimalRatio]
  exact if_pos h

theorem decimalRatio_of_neg (digits : Nat) {exponent : Int} (h : exponent < 0) :
    decimalRatio digits exponent = (digits * stepsPerUnit, 10 ^ (-exponent).toNat) := by
  rw [decimalRatio]
  exact if_neg (Int.not_le.2 h)

theorem decimalRatio_pos (digits : Nat) (exponent : Int) :
    0 < (decimalRatio digits exponent).2 := by
  rcases Int.lt_or_le exponent 0 with h | h
  · rw [decimalRatio_of_neg digits h]
    exact Nat.pow_pos (by decide)
  · rw [decimalRatio_of_nonneg digits h]
    exact Nat.one_pos

/-- The ratio of a decimal, in steps. -/
theorem div_decimalRatio (digits : Nat) (exponent : Int) :
    ((decimalRatio digits exponent).1 : ℚ) / (decimalRatio digits exponent).2 =
      digits * 10 ^ exponent * stepsPerUnit := by
  rcases Int.lt_or_le exponent 0 with h | h
  · have hpow : (10 : ℚ) ^ exponent = ((10 : ℚ) ^ (-exponent).toNat)⁻¹ := by
      rw [← zpow_natCast, ← zpow_neg]
      congr 1
      omega
    rw [decimalRatio_of_neg digits h, hpow]
    push_cast
    field_simp
  · have hpow : (10 : ℚ) ^ exponent = (10 : ℚ) ^ exponent.toNat := by
      rw [← zpow_natCast]
      congr 1
      omega
    rw [decimalRatio_of_nonneg digits h, hpow]
    push_cast
    rw [div_one]

/-- The powers that are not raised would not change the answer. -/
theorem ofDecimal_eq_nearest (negative : Bool) (digits : Nat) (exponent : Int) :
    ofDecimal negative digits exponent =
      nearest negative (decimalRatio digits exponent).1 (decimalRatio digits exponent).2 := by
  unfold ofDecimal
  split
  · rename_i hzero
    have hnum : (decimalRatio digits exponent).1 = 0 := by
      rw [hzero, decimalRatio]
      split
      · simp
      · simp
    rw [hnum]
    exact (nearest_eq_zero negative (decimalRatio_pos digits exponent)).symm
  · rename_i hdigits
    split
    · rename_i hlarge
      -- the power of ten alone has too many places before the point
      rw [decimalRatio_of_nonneg digits (by omega)]
      refine (nearest_eq_infinite negative ?_).symm
      rw [stepsLimit_eq_mul]
      apply Nat.mul_le_mul_right
      calc 2 ^ placesBefore ≤ 10 ^ exponent.toNat := two_pow_le_ten_pow hlarge
        _ ≤ digits * 10 ^ exponent.toNat := Nat.le_mul_of_pos_left _ (Nat.pos_of_ne_zero hdigits)
    · split
      · rename_i hsmall
        obtain ⟨hneg, hsmall⟩ := hsmall
        -- a ten holds more than three binary places, so what is left is less than half of a step
        rw [decimalRatio_of_neg digits hneg]
        refine (nearest_eq_zero negative ?_).symm
        calc 2 * (digits * stepsPerUnit)
            < 2 * (2 ^ (digits.log2 + 1) * stepsPerUnit) := by
              apply Nat.mul_lt_mul_of_pos_left _ (by decide)
              exact Nat.mul_lt_mul_of_pos_right Nat.lt_log2_self stepsPerUnit_pos
          _ = 2 ^ (digits.log2 + 1 + placesBehind + 1) := by
              rw [stepsPerUnit_eq, ← Nat.pow_add, ← Nat.pow_succ']
          _ ≤ 2 ^ (3 * (-exponent).toNat) := by
              apply Nat.pow_le_pow_right (by decide)
              rw [placesBehind]
              omega
          _ ≤ 10 ^ (1 * (-exponent).toNat) := two_pow_mul_le (by decide) _
          _ = 10 ^ (-exponent).toNat := by rw [Nat.one_mul]
      · rfl

end Binary64

end TurnTaking.Number
