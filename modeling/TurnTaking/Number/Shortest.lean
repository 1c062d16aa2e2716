import TurnTaking.Number.Binary64
/-!
# The fewest digits that read back

A double is named by the shortest decimal that rounds to it, and among those of that length by
the nearest. Every double is a whole number of units of 10⁻¹⁰⁷⁴, so the whole search is
exact arithmetic on natural numbers: on the grid of n-digit decimals only the two neighbours of
the number can be nearest, and the first grid with a neighbour that rounds to the number wins.
-/

namespace TurnTaking.Number

/-- A decimal: a significand without trailing zeros, times a power of ten. -/
structure Decimal where
  digits : Nat
  exponent : Int
deriving DecidableEq, Repr

/-- Where a number half way between two candidates goes. -/
inductive Tie where
  | toEven
  | upward
deriving DecidableEq, Repr

namespace Shortest

/-- How many units of 10⁻¹⁰⁷⁴ make one step of 2⁻¹⁰⁷⁴. -/
@[irreducible] def unitsPerStep : Nat :=
  Nat.pow 5 1074

/-- The distance in steps from a number to the next larger one. -/
def gapAbove (steps : Nat) : Nat :=
  Nat.pow 2 (Binary64.spareBits steps)

/-- Twice the distance in steps from a number to the next smaller one; it is half as far below a
power of two. -/
def twiceGapBelow (steps : Nat) : Nat :=
  let gap := gapAbove steps
  if gap ≠ 1 ∧ steps = 4503599627370496 * gap then gap else 2 * gap

/-- Whether a decimal, in units, rounds to the number of so many steps. The half-way points do if
the last binary place of the number is even. -/
def roundsTo (steps candidate : Nat) : Bool :=
  let value := steps * unitsPerStep
  let even := steps / gapAbove steps % 2 == 0
  if value ≤ candidate then
    let off := 2 * (candidate - value)
    let reach := gapAbove steps * unitsPerStep
    off < reach || (even && off == reach)
  else
    let off := 4 * (value - candidate)
    let reach := twiceGapBelow steps * unitsPerStep
    off < reach || (even && off == reach)

/-- The candidate on the grid of multiples of `grid` that rounds to the number, as the
multiple; of two the nearer one, of two equally near ones as `tie` says. -/
def onGrid? (tie : Tie) (steps grid : Nat) : Option Nat :=
  let value := steps * unitsPerStep
  let low := value / grid
  let high := low + 1
  let below := value - low * grid
  let above := high * grid - value
  match low != 0 && roundsTo steps (low * grid), roundsTo steps (high * grid) with
  | true, true =>
    if below < above then some low
    else if above < below then some high
    else match tie with
      | .toEven => some (if low % 2 = 0 then low else high)
      | .upward => some high
  | true, false => some low
  | false, true => some high
  | false, false => none

/-- The first grid that holds a candidate, from `n` digits on. -/
def search (tie : Tie) (steps length : Nat) : Nat → Nat → Nat × Nat
  | 0, _ => (steps * unitsPerStep, 0)
  | fuel + 1, n =>
    match onGrid? tie steps (Nat.pow 10 (length - n)) with
    | some m => (m, length - n)
    | none => search tie steps length fuel (n + 1)

/-- A number without its trailing zeros, and how many there were. -/
def dropZeros : Nat → Nat → Nat × Nat
  | 0, n => (n, 0)
  | fuel + 1, n =>
    if n % 10 = 0 ∧ n ≠ 0 then
      let (m, k) := dropZeros fuel (n / 10)
      (m, k + 1)
    else (n, 0)

end Shortest

open Shortest in
/-- The shortest decimal that rounds to a number of so many steps. -/
def shortest (tie : Tie) (steps : Nat) : Decimal :=
  if steps = 0 then ⟨0, 0⟩
  else
    let length := (Nat.toDigits 10 (steps * unitsPerStep)).length
    let (m, power) := search tie steps length 17 1
    let (digits, zeros) := dropZeros 20 m
    ⟨digits, (power + zeros : Nat) - 1074⟩

/-! ## Layouts -/

/-- The digits of a decimal. -/
def Decimal.figures (d : Decimal) : List Char :=
  Nat.toDigits 10 d.digits

/-- The power of ten at which the first digit stands. -/
def Decimal.leading (d : Decimal) : Int :=
  d.exponent + d.figures.length - 1

/-- A decimal without a power of ten; a whole number has no point. -/
def Decimal.positional (d : Decimal) : List Char :=
  let ds := d.figures
  if 0 ≤ d.exponent then ds ++ List.replicate d.exponent.toNat '0'
  else
    let places := (-d.exponent).toNat
    if places < ds.length then
      ds.take (ds.length - places) ++ '.' :: ds.drop (ds.length - places)
    else '0' :: '.' :: List.replicate (places - ds.length) '0' ++ ds

/-- A decimal with one digit before the point and a power of ten, whose sign is always written. -/
def Decimal.scientific (d : Decimal) : List Char :=
  let ds := d.figures
  let mantissa := match ds with
    | [] => []
    | c :: [] => [c]
    | c :: cs => c :: '.' :: cs
  mantissa ++ 'e' :: (if d.leading < 0 then '-' else '+') :: Nat.toDigits 10 d.leading.natAbs

/-- The minus sign of a negative number. -/
def signText (negative : Bool) : List Char :=
  if negative then ['-'] else []

/-- A number in full, without a power of ten; a whole number has no point. -/
def Binary64.plainText : Binary64 → String
  | .finite negative steps => String.ofList (signText negative ++ (shortest .upward steps).positional)
  | .infinite negative => String.ofList (signText negative ++ "inf".toList)
  | .notANumber => "NaN"

/-- A number as it is written in structured text: always with a point or a power of ten, and with
a power when its first digit stands outside the places -5 to 15. -/
def Binary64.exactText : Binary64 → String
  | .finite negative steps =>
    let d := shortest .toEven steps
    let body :=
      if -5 ≤ d.leading ∧ d.leading ≤ 15 then
        d.positional ++ (if 0 ≤ d.exponent then ['.', '0'] else [])
      else d.scientific
    String.ofList (signText negative ++ body)
  | .infinite negative => String.ofList (signText negative ++ "inf".toList)
  | .notANumber => "NaN"

end TurnTaking.Number
