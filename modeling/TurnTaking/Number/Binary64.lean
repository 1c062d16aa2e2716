/-!
# Binary floating point numbers of 64 bits

A finite number is kept as the whole count of the smallest step, 2⁻¹⁰⁷⁴, of which every such
number is a multiple. Rounding a ratio is then one quotient of natural numbers.

The main statements are `roundEven_mul`, that a multiple of the denominator is kept, and
`roundEven_mono`, that rounding keeps the order.
-/

namespace TurnTaking.Number

/-! ## Rounding a quotient -/

/-- The whole number nearest to `num / den`; half way between two, the even one. -/
def roundEven (num den : Nat) : Nat :=
  let q := num / den
  let r := num % den
  if 2 * r < den then q
  else if den < 2 * r then q + 1
  else q + q % 2

theorem roundEven_mul {den : Nat} (h : 0 < den) (n : Nat) : roundEven (n * den) den = n := by
  simp [roundEven, Nat.mul_div_cancel n h, h]

/-- The rounded quotient is at least the floor of the quotient. -/
theorem div_le_roundEven (num den : Nat) : num / den ≤ roundEven num den := by
  grind [roundEven]

/-- The rounded quotient is at most one above the floor of the quotient. -/
theorem roundEven_le_div (num den : Nat) : roundEven num den ≤ num / den + 1 := by
  grind [roundEven]

theorem roundEven_mono {den a b : Nat} (h : a ≤ b) : roundEven a den ≤ roundEven b den := by
  have hq : a / den ≤ b / den := Nat.div_le_div_right h
  rcases Nat.lt_or_eq_of_le hq with hlt | heq
  · have ha := roundEven_le_div a den
    have hb := div_le_roundEven b den
    omega
  · have hr : a % den ≤ b % den := by
      have ha := Nat.div_add_mod a den
      have hb := Nat.div_add_mod b den
      rw [heq] at ha
      omega
    simp only [roundEven, heq]
    grind

/-! ## Numbers -/

/-- The number of the smallest steps in 1. -/
@[irreducible] def stepsPerUnit : Nat :=
  Nat.pow 2 1074

/-- The least number of steps that is too large to be finite. -/
@[irreducible] def stepsLimit : Nat :=
  Nat.pow 2 2098

/-- A number of 64 bits. -/
inductive Binary64 where
  /-- A whole count of steps of 2⁻¹⁰⁷⁴, with a sign that zero has too. -/
  | finite (negative : Bool) (steps : Nat)
  | infinite (negative : Bool)
  | notANumber
deriving DecidableEq, Repr

namespace Binary64

/-- How many binary places lie below the 53 that a number of this many whole steps keeps. -/
def spareBits (steps : Nat) : Nat :=
  if steps = 0 then 0 else steps.log2 - 52

/-- The ratio `num / den` of steps, rounded to 53 binary places. -/
def roundSteps (num den : Nat) : Nat :=
  let unit := Nat.pow 2 (spareBits (num / den))
  roundEven num (den * unit) * unit

/-- The number nearest to a ratio of steps. -/
def nearest (negative : Bool) (num den : Nat) : Binary64 :=
  let steps := roundSteps num den
  if steps < stepsLimit then .finite negative steps else .infinite negative

/-- The number nearest to a natural number. -/
def ofNat (n : Nat) : Binary64 :=
  nearest false (n * stepsPerUnit) 1

/-- The number with its sign turned. -/
def neg : Binary64 → Binary64
  | finite negative steps => finite (!negative) steps
  | infinite negative => infinite (!negative)
  | notANumber => notANumber

/-- The size of a power of ten times a natural number, as a ratio of steps. -/
def decimalRatio (digits : Nat) (exponent : Int) : Nat × Nat :=
  if 0 ≤ exponent then (digits * Nat.pow 10 exponent.toNat * stepsPerUnit, 1)
  else (digits * stepsPerUnit, Nat.pow 10 (-exponent).toNat)

/-- The number nearest to `digits · 10 ^ exponent`. Exponents so large or so small that the
answer is infinite or zero whatever the digits are not raised to. -/
def ofDecimal (negative : Bool) (digits : Nat) (exponent : Int) : Binary64 :=
  if digits = 0 then finite negative 0
  else if 310 ≤ exponent then infinite negative
  else if exponent < 0 ∧ (digits.log2 : Int) + 1100 ≤ -3 * exponent then finite negative 0
  else
    let r := decimalRatio digits exponent
    nearest negative r.1 r.2

/-- The product of a number and a finite number without sign. -/
def scale (x : Binary64) (steps : Nat) : Binary64 :=
  match x with
  | finite negative a => nearest negative (a * steps) stepsPerUnit
  | other => other

/-- The quotient of a number by a finite positive number. -/
def shrink (x : Binary64) (steps : Nat) : Binary64 :=
  match x with
  | finite negative a => nearest negative (a * stepsPerUnit) steps
  | other => other

/-- Whether the number is a zero of either sign. -/
def isZero : Binary64 → Bool
  | finite _ steps => steps = 0
  | _ => false

end Binary64

end TurnTaking.Number
