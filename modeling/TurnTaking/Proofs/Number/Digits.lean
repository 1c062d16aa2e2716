import Mathlib.Data.Nat.Basic
import Mathlib.Tactic.Ring
import TurnTaking.Number.Numeral
import TurnTaking.Text.Blank
/-!
# Reading decimal digits back

What a reader of digits makes of a number that has been written in base ten: where it stops, what
it reads, and that no zero stands first.

The main statements are `digitsOf_take_append`, that a reader stops behind the last digit,
`readDigits_toDigits`, that it reads the number, and `no_leading_zero`, that only the number zero
begins with a zero.
-/

namespace TurnTaking.Number

variable {ds rest : List Char}

theorem ne_of_isDigit {c d : Char} (hc : c.isDigit = true) (hd : d.isDigit = false) : c ≠ d := by
  rintro rfl
  rw [hc] at hd
  cases hd

open Text in
theorem isBlank_of_isDigit {c : Char} (h : c.isDigit = true) : isBlank c = false := by
  obtain ⟨hlow, hhigh⟩ : 48 ≤ c.toNat ∧ c.toNat ≤ 57 := by
    simpa [Char.isDigit, UInt32.le_iff_toNat_le] using h
  simp [isBlank, blankRanges, Ranges.has, Ranges.contains]
  omega

/-! ## Where a number ends -/

theorem digitsOf_self (hds : ∀ c ∈ ds, c.isDigit = true) : digitsOf ds = ds := by
  have h : digitsOf (ds ++ []) = ds ++ digitsOf [] := List.takeWhile_append_of_pos hds
  rwa [List.append_nil, digitsOf.eq_1 [], List.takeWhile_nil, List.append_nil] at h

theorem digitsOf_append (hds : ∀ c ∈ ds, c.isDigit = true) (hrest : digitsOf rest = []) :
    digitsOf (ds ++ rest) = ds := by
  rw [digitsOf, List.takeWhile_append_of_pos hds, ← digitsOf, hrest, List.append_nil]

theorem afterDigits_self (hds : ∀ c ∈ ds, c.isDigit = true) : afterDigits ds = [] := by
  have h := digitsOf_append_afterDigits ds
  rw [digitsOf_self hds] at h
  exact List.append_right_eq_self.mp h

theorem afterDigits_of_digitsOf (hrest : digitsOf rest = []) : afterDigits rest = rest := by
  have h := digitsOf_append_afterDigits rest
  rwa [hrest, List.nil_append] at h

theorem afterDigits_append (hds : ∀ c ∈ ds, c.isDigit = true)
    (hrest : digitsOf rest = []) : afterDigits (ds ++ rest) = rest := by
  have h := digitsOf_append_afterDigits (ds ++ rest)
  rw [digitsOf_append hds hrest] at h
  exact List.append_cancel_left h

/-- A text that does not begin with a digit does not do so either once it is cut off. -/
theorem digitsOf_take (hrest : digitsOf rest = []) (n : Nat) : digitsOf (rest.take n) = [] := by
  cases rest with
  | nil => rw [List.take_nil]; rfl
  | cons c cs =>
    cases n with
    | zero => rfl
    | succ n =>
      have hc : ¬ c.isDigit = true := by
        intro hc
        simp [digitsOf, hc] at hrest
      simp [digitsOf, hc]

/-- A number is read whole by a reader of at least as many digits. -/
theorem digitsOf_take_append (hds : ∀ c ∈ ds, c.isDigit = true) (hrest : digitsOf rest = [])
    {width : Nat} (hw : ds.length ≤ width) : digitsOf ((ds ++ rest).take width) = ds := by
  rw [List.take_append, List.take_of_length_le hw]
  exact digitsOf_append hds (digitsOf_take hrest _)

/-! ## What a number is read as -/

theorem readDigitsFrom_append (acc : Nat) (a b : List Char) :
    readDigitsFrom acc (a ++ b) = readDigitsFrom (readDigitsFrom acc a) b :=
  List.foldl_append

theorem readDigitsFrom_zeros (k : Nat) : readDigitsFrom 0 (List.replicate k '0') = 0 := by
  induction k with
  | zero => rfl
  | succ k ih =>
    rw [List.replicate_succ]
    exact ih

theorem readDigitsFrom_eq (acc : Nat) (ds : List Char) :
    readDigitsFrom acc ds = acc * 10 ^ ds.length + readDigits ds := by
  induction ds generalizing acc with
  | nil => simp [readDigits, readDigitsFrom]
  | cons c cs ih =>
    have hfirst : readDigits (c :: cs) = readDigitsFrom (10 * 0 + digitValue c) cs := rfl
    show readDigitsFrom (10 * acc + digitValue c) cs = _
    rw [hfirst, ih (10 * acc + digitValue c), ih (10 * 0 + digitValue c), List.length_cons,
      Nat.pow_succ]
    ring

theorem readDigits_append (a b : List Char) :
    readDigits (a ++ b) = readDigits a * 10 ^ b.length + readDigits b := by
  rw [readDigits, readDigitsFrom_append, readDigitsFrom_eq _ b]
  rfl

theorem readDigits_toDigits (n : Nat) : readDigits (Nat.toDigits 10 n) = n := by
  rw [readDigits, readDigitsFrom]
  exact Nat.ofDigitChars_eq_foldl.symm.trans Nat.ofDigitChars_ten_toDigits

theorem isDigit_of_mem {n : Nat} {c : Char} (h : c ∈ Nat.toDigits 10 n) : c.isDigit = true :=
  Nat.isDigit_of_mem_toDigits (by decide) (by decide) h

/-- Reading further digits never makes a number smaller. -/
theorem le_readDigitsFrom (acc : Nat) (ds : List Char) : acc ≤ readDigitsFrom acc ds := by
  induction ds generalizing acc with
  | nil => exact Nat.le_refl acc
  | cons c cs ih =>
    have h : 10 * acc + digitValue c ≤ readDigitsFrom acc (c :: cs) := ih _
    omega

/-! ## The first digit -/

theorem head?_toDigits {n : Nat} (hn : 0 < n) : (Nat.toDigits 10 n).head? ≠ some '0' := by
  induction n using Nat.strongRecOn with
  | ind n ih =>
    rw [Nat.toDigits_eq_if (by decide)]
    split
    · rw [List.head?_cons, ne_eq, Option.some.injEq, Nat.digitChar_eq_zero]
      omega
    · have hfirst := ih (n / 10) (by omega) (by omega)
      have hne : Nat.toDigits 10 (n / 10) ≠ [] := Nat.toDigits_ne_nil
      obtain ⟨c, cs, hcs⟩ := List.exists_cons_of_ne_nil hne
      rw [hcs] at hfirst ⊢
      exact hfirst

/-- Nothing stands before a number but a zero for itself. -/
theorem no_leading_zero (n : Nat) :
    ¬ (1 < (Nat.toDigits 10 n).length ∧ (Nat.toDigits 10 n).head? = some '0') := by
  rintro ⟨hlen, hhead⟩
  rcases Nat.eq_zero_or_pos n with rfl | hn
  · simp at hlen
  · exact head?_toDigits hn hhead

end TurnTaking.Number
