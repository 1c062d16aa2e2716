import Mathlib.Algebra.Order.Ring.Nat
import Mathlib.Tactic.Linarith
import Mathlib.Tactic.Ring
import TurnTaking.Number.Binary64
/-!
# Rounding to 53 binary places

A ratio is rounded twice here: its whole part tells how many binary places are to spare, and the
quotient by a unit of that size is rounded to a whole number. Both depend on the ratio alone, and
not on how it is written as a fraction. Between two powers of two the units are the same, and at a
power of two nothing is rounded, so the order is kept across the units as well.

The main statements are `roundSteps_le_roundSteps`, by which rounding keeps the order of ratios, and
`roundSteps_close`, by which a ratio is moved by no more than one part in 2⁵³.
-/

namespace TurnTaking.Number

/-! ## Whole numbers -/

section

variable {num den : Nat}

/-- A fraction may be expanded before it is rounded. -/
theorem roundEven_mul_mul {k : Nat} (hk : 0 < k) (num den : Nat) :
    roundEven (num * k) (den * k) = roundEven num den := by
  have hq : num * k / (den * k) = num / den := Nat.mul_div_mul_right num den hk
  have hr : num * k % (den * k) = num % den * k := Nat.mul_mod_mul_right k num den
  have hlow : 2 * (num % den * k) < den * k ↔ 2 * (num % den) < den := by
    rw [← Nat.mul_assoc]
    exact Nat.mul_lt_mul_right hk
  have hhigh : den * k < 2 * (num % den * k) ↔ den < 2 * (num % den) := by
    rw [← Nat.mul_assoc]
    exact Nat.mul_lt_mul_right hk
  simp only [roundEven, hq, hr, hlow, hhigh]

/-- A ratio is rounded by half of one at most. -/
theorem roundEven_close (num : Nat) (h : 0 < den) :
    2 * num ≤ 2 * (roundEven num den * den) + den ∧
      2 * (roundEven num den * den) ≤ 2 * num + den := by
  have hnum : num / den * den + num % den = num := Nat.div_add_mod' num den
  have hrest : num % den < den := Nat.mod_lt num h
  have hup : (num / den + 1) * den = num / den * den + den := Nat.succ_mul _ _
  unfold roundEven
  dsimp only
  split
  · omega
  · split
    · omega
    · -- half way between two whole numbers both are equally near
      rcases Nat.mod_two_eq_zero_or_one (num / den) with heven | hodd
      · rw [heven, Nat.add_zero]
        omega
      · rw [hodd]
        omega

/-- A ratio that differs by less than half of one from a whole number is rounded to that. -/
theorem roundEven_eq_of_close {n : Nat} (hlow : 2 * (n * den) < 2 * num + den)
    (hhigh : 2 * num < 2 * (n * den) + den) : roundEven num den = n := by
  have hden : 0 < den := by
    rcases Nat.eq_zero_or_pos den with rfl | hpos
    · simp only [Nat.mul_zero] at hlow hhigh
      omega
    · exact hpos
  obtain ⟨hbelow, habove⟩ := roundEven_close num hden
  have hle : roundEven num den < n + 1 := by
    apply Nat.lt_of_mul_lt_mul_right (a := den)
    rw [Nat.succ_mul]
    omega
  have hge : n < roundEven num den + 1 := by
    apply Nat.lt_of_mul_lt_mul_right (a := den)
    rw [Nat.succ_mul]
    omega
  omega

end

/-! ## The size of a unit -/

namespace Binary64

/-- The spare places are those beyond the leading 53. -/
theorem spareBits_bounds (q : Nat) :
    q < 2 ^ (53 + spareBits q) ∧ (spareBits q = 0 ∨ 2 ^ (52 + spareBits q) ≤ q) := by
  unfold spareBits
  split
  · rename_i hzero
    rw [hzero]
    exact ⟨by positivity, Or.inl rfl⟩
  · rename_i hq
    have hlow : 2 ^ q.log2 ≤ q := Nat.log2_self_le hq
    have hhigh : q < 2 ^ (q.log2 + 1) := Nat.lt_log2_self
    constructor
    · exact Nat.lt_of_lt_of_le hhigh (Nat.pow_le_pow_right (by decide) (by omega))
    · by_cases hfew : q.log2 ≤ 52
      · exact Or.inl (by omega)
      · right
        have hlog : 52 + (q.log2 - 52) = q.log2 := by omega
        rw [hlog]
        exact hlow

theorem spareBits_mono {p q : Nat} (h : p ≤ q) : spareBits p ≤ spareBits q := by
  -- with more places to spare `p` would reach a power of two that `q` stays below
  by_contra hlt
  rcases (spareBits_bounds p).2 with hnone | hlow
  · omega
  · have hhigh := (spareBits_bounds q).1
    have hpow : 2 ^ (53 + spareBits q) ≤ 2 ^ (52 + spareBits p) :=
      Nat.pow_le_pow_right (by decide) (by omega)
    omega

/-- The rounded ratio is a whole number of units. -/
theorem roundSteps_eq (num den : Nat) :
    roundSteps num den =
      roundEven num (den * 2 ^ spareBits (num / den)) * 2 ^ spareBits (num / den) :=
  rfl

/-- A unit is small against a ratio that has at least 53 places. -/
theorem unit_le {q : Nat} (hq : 2 ^ 52 ≤ q) : 2 ^ 52 * 2 ^ spareBits q ≤ q := by
  rcases (spareBits_bounds q).2 with hnone | hlow
  · rw [hnone]
    simpa using hq
  · rw [← Nat.pow_add]
    exact hlow

/-- No more than 53 places are left. -/
theorem roundSteps_le_pow (num den : Nat) :
    roundSteps num den ≤ 2 ^ (53 + spareBits (num / den)) := by
  have hfew : num / (den * 2 ^ spareBits (num / den)) < 2 ^ 53 := by
    rw [← Nat.div_div_eq_div_mul]
    apply Nat.div_lt_of_lt_mul
    rw [← Nat.pow_add, Nat.add_comm]
    exact (spareBits_bounds _).1
  have hround := roundEven_le_div num (den * 2 ^ spareBits (num / den))
  rw [roundSteps_eq, Nat.pow_add]
  exact Nat.mul_le_mul_right _ (by omega)

/-- All of the 53 places are used if there are any to spare. -/
theorem pow_le_roundSteps {num den : Nat} (h : spareBits (num / den) ≠ 0) :
    2 ^ (52 + spareBits (num / den)) ≤ roundSteps num den := by
  have hmany : 2 ^ 52 ≤ num / (den * 2 ^ spareBits (num / den)) := by
    rw [← Nat.div_div_eq_div_mul]
    rw [Nat.le_div_iff_mul_le (Nat.two_pow_pos _), ← Nat.pow_add]
    exact (spareBits_bounds _).2.resolve_left h
  have hround := div_le_roundEven num (den * 2 ^ spareBits (num / den))
  rw [roundSteps_eq, Nat.pow_add]
  exact Nat.mul_le_mul_right _ (by omega)

/-! ## Ratios -/

/-- A fraction may be expanded before it is rounded. -/
theorem roundSteps_mul_mul {k : Nat} (hk : 0 < k) (num den : Nat) :
    roundSteps (num * k) (den * k) = roundSteps num den := by
  have hq : num * k / (den * k) = num / den := Nat.mul_div_mul_right num den hk
  rw [roundSteps_eq, roundSteps_eq, hq, Nat.mul_right_comm, roundEven_mul_mul hk]

theorem roundSteps_mono {a b : Nat} (h : a ≤ b) (den : Nat) :
    roundSteps a den ≤ roundSteps b den := by
  have hbits : spareBits (a / den) ≤ spareBits (b / den) := spareBits_mono (Nat.div_le_div_right h)
  rcases Nat.eq_or_lt_of_le hbits with heq | hlt
  · rw [roundSteps_eq, roundSteps_eq, heq]
    exact Nat.mul_le_mul_right _ (roundEven_mono h)
  · -- a power of two lies between them, and is kept by both roundings
    calc roundSteps a den ≤ 2 ^ (53 + spareBits (a / den)) := roundSteps_le_pow a den
      _ ≤ 2 ^ (52 + spareBits (b / den)) := Nat.pow_le_pow_right (by decide) (by omega)
      _ ≤ roundSteps b den := pow_le_roundSteps (by omega)

/-- Rounding keeps the order of ratios. -/
theorem roundSteps_le_roundSteps {a b d e : Nat} (hd : 0 < d) (he : 0 < e) (h : a * e ≤ b * d) :
    roundSteps a d ≤ roundSteps b e := by
  rw [← roundSteps_mul_mul he a d, ← roundSteps_mul_mul hd b e, Nat.mul_comm e d]
  exact roundSteps_mono h _

/-- Powers of two are kept. -/
theorem roundSteps_two_pow (k : Nat) : roundSteps (2 ^ k) 1 = 2 ^ k := by
  have hdiv : 2 ^ k / 1 = 2 ^ k := Nat.div_one _
  have hbits : spareBits (2 ^ k) ≤ k := by
    have hpos : 2 ^ k ≠ 0 := by positivity
    rw [spareBits, if_neg hpos, Nat.log2_two_pow]
    omega
  have hpow : 2 ^ k = 2 ^ (k - spareBits (2 ^ k)) * 2 ^ spareBits (2 ^ k) := by
    rw [← Nat.pow_add, Nat.sub_add_cancel hbits]
  rw [roundSteps_eq, hdiv, Nat.one_mul]
  conv_lhs => lhs; arg 1; rw [hpow]
  rw [roundEven_mul (Nat.two_pow_pos _), ← hpow]

/-- A ratio of at least 53 places is moved by no more than one part in 2⁵³. -/
theorem roundSteps_close {num den : Nat} (h : 2 ^ 52 ≤ num / den) :
    2 ^ 53 * num ≤ 2 ^ 53 * (roundSteps num den * den) + num ∧
      2 ^ 53 * (roundSteps num den * den) ≤ 2 ^ 53 * num + num := by
  have hunit : den * 2 ^ spareBits (num / den) * 2 ^ 52 ≤ num := by
    calc den * 2 ^ spareBits (num / den) * 2 ^ 52
        = den * (2 ^ 52 * 2 ^ spareBits (num / den)) := by ring
      _ ≤ den * (num / den) := Nat.mul_le_mul_left _ (unit_le h)
      _ ≤ num := Nat.mul_div_le num den
  have hsteps : roundSteps num den * den =
      roundEven num (den * 2 ^ spareBits (num / den)) * (den * 2 ^ spareBits (num / den)) := by
    rw [roundSteps_eq]
    ring
  have hden : 0 < den * 2 ^ spareBits (num / den) := by
    rcases Nat.eq_zero_or_pos den with rfl | hpos
    · simp at h
    · positivity
  obtain ⟨hbelow, habove⟩ := roundEven_close num hden
  rw [hsteps]
  constructor
  · omega
  · omega

end Binary64

end TurnTaking.Number
