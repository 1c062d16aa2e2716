import Mathlib.Data.Nat.Basic
import TurnTaking.Proofs.Number.Digits
import TurnTaking.Time.StampReader
/-!
# Reading written stamps back

A stamp is written in parts of known widths with marks between them, and each part is read off the
front of what is left. The numbers that are read are those of the stamp: a year has its sign
outside of the four digit years, a fraction is scaled back to nanoseconds, and a sixtieth second
stands for the second range of nanoseconds of the fifty-ninth.

The main statement is `Stamp.ofText_text`: a written stamp is read back as itself.
-/

namespace TurnTaking.Time

open Number Text

/-! ## Numbers of a given width -/

namespace Stamp

variable {width n : Nat}

theorem isDigit_of_mem_padded {c : Char} (h : c ∈ padded width n) : c.isDigit = true := by
  rcases List.mem_append.mp h with hzero | hdigit
  · rw [List.eq_of_mem_replicate hzero]
    rfl
  · exact isDigit_of_mem hdigit

theorem padded_ne_nil : padded width n ≠ [] :=
  List.append_ne_nil_of_right_ne_nil _ Nat.toDigits_ne_nil

theorem exists_padded_eq_cons (width n : Nat) :
    ∃ c cs, padded width n = c :: cs ∧ c.isDigit = true := by
  have hne : padded width n ≠ [] := padded_ne_nil
  obtain ⟨c, cs, hcs⟩ := List.exists_cons_of_ne_nil hne
  have hc : c ∈ padded width n := by
    rw [hcs]
    exact List.mem_cons_self
  exact ⟨c, cs, hcs, isDigit_of_mem_padded hc⟩

theorem length_padded (hwidth : 0 < width) (hn : n < Nat.pow 10 width) :
    (padded width n).length = width := by
  have hle := (Nat.length_toDigits_le_iff (b := 10) (by decide) hwidth).mpr hn
  rw [padded, List.length_append, List.length_replicate]
  omega

theorem readDigits_padded : readDigits (padded width n) = n := by
  rw [padded, readDigits, readDigitsFrom_append, readDigitsFrom_zeros]
  exact readDigits_toDigits n

end Stamp

/-! ## Parts of a stamp -/

namespace StampReader

open Stamp

variable {rest : List Char}

/-- A reader that has read a part goes on with what is left. -/
theorem run_bind_ok {α β : Type} {r : Reader α} {s : List Char} {a : α}
    (h : r.run s = .ok (a, rest)) (f : α → Reader β) : (r >>= f).run s = (f a).run rest := by
  rw [StateT.run_bind, h]
  rfl

theorem run_get (s : List Char) : (get : Reader (List Char)).run s = .ok (s, s) :=
  rfl

theorem run_set (s rest : List Char) : (set rest : Reader PUnit).run s = .ok ((), rest) :=
  rfl

theorem run_modify (f : List Char → List Char) (s : List Char) :
    (modify f : Reader PUnit).run s = .ok ((), f s) :=
  rfl

theorem run_blanks {c : Char} (h : isBlank c = false) :
    blanks.run (c :: rest) = .ok ((), c :: rest) := by
  have hstrip : stripStart isBlank (c :: rest) = c :: rest := by
    simp [stripStart, h]
  show Except.ok ((), stripStart isBlank (c :: rest)) = _
  rw [hstrip]

theorem run_blanks_padded {width n : Nat} :
    blanks.run (padded width n ++ rest) = .ok ((), padded width n ++ rest) := by
  obtain ⟨c, cs, hcs, hc⟩ := exists_padded_eq_cons width n
  rw [hcs]
  exact run_blanks (isBlank_of_isDigit hc)

theorem run_mark {c : Char} (h : isBlank c = false) :
    (mark c).run (c :: rest) = .ok ((), rest) := by
  rw [mark, run_bind_ok (run_blanks h)]
  show (if c = c then _ else _ : Reader Unit).run (c :: rest) = _
  rw [if_pos rfl]
  rfl

/-- The digits that a reader of numbers looks at. -/
def reach (width : Option Nat) (s : List Char) : List Char :=
  match width with
  | some w => s.take w
  | none => s

theorem run_number {width : Option Nat} {ds : List Char} (hne : ds ≠ [])
    (hreach : digitsOf (reach width (ds ++ rest)) = ds) (hvalue : readDigits ds < signLimit) :
    (number width).run (ds ++ rest) = .ok (readDigits ds, rest) := by
  have hempty : (ds ++ rest).isEmpty = false := by
    simp [hne]
  have hdigits : ds.isEmpty = false := by
    simp [hne]
  have hsmall : ¬ signLimit ≤ readDigits ds := Nat.not_le.mpr hvalue
  show (if (ds ++ rest).isEmpty then _
    else if (digitsOf (reach width (ds ++ rest))).isEmpty then _
    else if signLimit ≤ readDigits (digitsOf (reach width (ds ++ rest))) then _
    else _ : Reader Nat).run (ds ++ rest) = _
  rw [hreach, hempty, hdigits, if_neg Bool.false_ne_true, if_neg Bool.false_ne_true, if_neg hsmall]
  show Except.ok (readDigits (digitsOf (reach width (ds ++ rest))),
    (ds ++ rest).drop (digitsOf (reach width (ds ++ rest))).length) = _
  rw [hreach, List.drop_left]

/-- A number that is written in at most as many digits as a reader takes. -/
theorem run_number_padded {width limit n : Nat} (hwidth : 0 < width) (hn : n < Nat.pow 10 width)
    (hlimit : width ≤ limit) (hsmall : width ≤ 9) (hrest : width = limit ∨ digitsOf rest = []) :
    (number (some limit)).run (padded width n ++ rest) = .ok (n, rest) := by
  have hlen := length_padded hwidth hn
  have hdigits : ∀ c ∈ padded width n, c.isDigit = true := fun _ => isDigit_of_mem_padded
  have hreach : digitsOf (reach (some limit) (padded width n ++ rest)) = padded width n := by
    rcases hrest with rfl | hrest
    · rw [reach, List.take_left' hlen]
      exact digitsOf_self hdigits
    · exact digitsOf_take_append hdigits hrest (by omega)
  have hvalue : readDigits (padded width n) < signLimit := by
    have hpow : Nat.pow 10 width ≤ 1000000000 := Nat.pow_le_pow_right (by decide) hsmall
    rw [readDigits_padded, signLimit]
    omega
  rw [run_number padded_ne_nil hreach hvalue, readDigits_padded]

theorem run_field {low high n : Nat} (hlow : low ≤ n) (hhigh : n ≤ high) (hn : n < 100) :
    (field low high).run (padded 2 n ++ rest) = .ok (n, rest) := by
  have hnumber : (number (some 2)).run (padded 2 n ++ rest) = .ok (n, rest) :=
    run_number_padded (by decide) hn (by decide) (by decide) (.inl rfl)
  rw [field, run_bind_ok run_blanks_padded, run_bind_ok hnumber, if_pos ⟨hlow, hhigh⟩]
  rfl

/-! ### The year -/

/-- A year of four digits. -/
theorem run_yearNumber_short {n : Nat} (hn : n ≤ 9999) :
    yearNumber.run (padded 4 n ++ '-' :: rest) = .ok ((n : Int), '-' :: rest) := by
  have hnumber : (number (some 4)).run (padded 4 n ++ '-' :: rest) = .ok (n, '-' :: rest) :=
    run_number_padded (by decide) (show n < 10000 by omega) (by decide) (by decide) (.inl rfl)
  obtain ⟨c, cs, hcs, hc⟩ := exists_padded_eq_cons 4 n
  rw [hcs, List.cons_append] at hnumber ⊢
  rw [yearNumber, run_bind_ok (run_get _)]
  -- a digit is neither of the two signs
  split
  · next heq => exact absurd (List.cons.inj heq).1 (ne_of_isDigit hc rfl)
  · next heq => exact absurd (List.cons.inj heq).1 (ne_of_isDigit hc rfl)
  · rw [run_bind_ok hnumber]
    rfl

/-- A year outside of the four digit years has a sign and all its digits. -/
theorem run_number_long {n : Nat} (hn : n ≤ 262143) :
    (number none).run (padded 4 n ++ '-' :: rest) = .ok (n, '-' :: rest) := by
  have hreach : digitsOf (reach none (padded 4 n ++ '-' :: rest)) = padded 4 n :=
    digitsOf_append (fun _ => isDigit_of_mem_padded) rfl
  have hvalue : readDigits (padded 4 n) < signLimit := by
    rw [readDigits_padded, signLimit]
    omega
  rw [run_number padded_ne_nil hreach hvalue, readDigits_padded]

theorem run_yearNumber {y : Int} (hfirst : firstYear ≤ y) (hlast : y ≤ lastYear) :
    yearNumber.run (yearText y ++ '-' :: rest) = .ok (y, '-' :: rest) := by
  rw [firstYear] at hfirst
  rw [lastYear] at hlast
  rw [yearText]
  by_cases hshort : 0 ≤ y ∧ y ≤ 9999
  · rw [if_pos hshort, run_yearNumber_short (by omega), Int.toNat_of_nonneg hshort.1]
  · have hnumber : (number none).run (padded 4 y.natAbs ++ '-' :: rest)
        = .ok (y.natAbs, '-' :: rest) := run_number_long (by omega)
    rw [if_neg hshort]
    by_cases hneg : y < 0
    · rw [if_pos hneg]
      have hy : -(y.natAbs : Int) = y := by omega
      show (number none >>= fun n => pure (-(n : Int)) : Reader Int).run
        (padded 4 y.natAbs ++ '-' :: rest) = _
      rw [run_bind_ok hnumber, hy]
      rfl
    · rw [if_neg hneg]
      have hy : (y.natAbs : Int) = y := by omega
      show (number none >>= fun n => pure (n : Int) : Reader Int).run
        (padded 4 y.natAbs ++ '-' :: rest) = _
      rw [run_bind_ok hnumber, hy]
      rfl

theorem run_blanks_yearText {y : Int} :
    blanks.run (yearText y ++ rest) = .ok ((), yearText y ++ rest) := by
  rw [yearText]
  split
  · exact run_blanks_padded
  · split
    · exact run_blanks (by decide)
    · exact run_blanks (by decide)

theorem run_year {y : Int} (hfirst : firstYear ≤ y) (hlast : y ≤ lastYear) :
    year.run (yearText y ++ '-' :: rest) = .ok (y, '-' :: rest) := by
  have hrange : -2147483648 ≤ y ∧ y < 2147483648 := by
    rw [firstYear] at hfirst
    rw [lastYear] at hlast
    omega
  rw [year, run_bind_ok run_blanks_yearText, run_bind_ok (run_yearNumber hfirst hlast),
    if_pos hrange]
  rfl

/-! ### The fraction and the zone -/

/-- A fraction of at most nine digits is scaled to nanoseconds. -/
theorem run_fraction_padded {width n : Nat} (hwidth : 0 < width) (hnine : width ≤ 9)
    (hn : n < Nat.pow 10 width) (hrest : digitsOf rest = []) :
    fraction.run ('.' :: padded width n ++ rest) = .ok (n * Nat.pow 10 (9 - width), rest) := by
  have hnumber : (number (some 9)).run (padded width n ++ rest) = .ok (n, rest) :=
    run_number_padded hwidth hn hnine hnine (.inr hrest)
  have hlen : (digitsOf ((padded width n ++ rest).take 9)).length = width := by
    have hle : (padded width n).length ≤ 9 := by
      rw [length_padded hwidth hn]
      exact hnine
    rw [digitsOf_take_append (fun _ => isDigit_of_mem_padded) hrest hle, length_padded hwidth hn]
  have hafter : afterDigits rest = rest := afterDigits_of_digitsOf hrest
  rw [List.cons_append, fraction, run_bind_ok (run_get _)]
  split
  · next heq =>
    obtain rfl := (List.cons.inj heq).2
    rw [run_bind_ok (run_set _ _), run_bind_ok hnumber, run_bind_ok (run_modify _ _), hafter, hlen]
    rfl
  · next hother => exact absurd rfl (hother _)

theorem run_fraction {nanos : Nat} (hn : nanos < 1000000000) :
    fraction.run (fractionText nanos ++ 'Z' :: rest) = .ok (nanos, 'Z' :: rest) := by
  rw [fractionText]
  split
  · next hzero =>
    rw [hzero]
    rfl
  · split
    · next hmillis =>
      have hread : fraction.run ('.' :: padded 3 (nanos / 1000000) ++ 'Z' :: rest)
          = .ok (nanos / 1000000 * 1000000, 'Z' :: rest) :=
        run_fraction_padded (by decide) (by decide) (show _ < 1000 by omega) rfl
      rw [hread, Nat.div_mul_cancel (Nat.dvd_of_mod_eq_zero hmillis)]
    · split
      · next hmicros =>
        have hread : fraction.run ('.' :: padded 6 (nanos / 1000) ++ 'Z' :: rest)
            = .ok (nanos / 1000 * 1000, 'Z' :: rest) :=
          run_fraction_padded (by decide) (by decide) (show _ < 1000000 by omega) rfl
        rw [hread, Nat.div_mul_cancel (Nat.dvd_of_mod_eq_zero hmicros)]
      · have hread : fraction.run ('.' :: padded 9 nanos ++ 'Z' :: rest)
            = .ok (nanos * 1, 'Z' :: rest) :=
          run_fraction_padded (by decide) (by decide) hn rfl
        rw [hread, Nat.mul_one]

theorem run_zone : zone.run ['Z'] = .ok (0, []) :=
  rfl

/-! ### All parts -/

/-- The parts of a written stamp; a leap second is the sixtieth second of its minute. -/
def partsOf (s : Stamp) : Parts where
  year := s.date.year
  month := s.date.month
  day := s.date.day
  hour := s.second / 3600
  minute := s.second / 60 % 60
  second := s.second % 60 + s.nanos / 1000000000
  nanos := s.nanos % 1000000000
  offset := 0

theorem run_dayMark : dayMark.run ('T' :: rest) = .ok ((), rest) :=
  rfl

theorem run_parts (s : Stamp) : parts.run s.text = .ok (partsOf s, []) := by
  obtain ⟨⟨hfirst, hlast⟩, ⟨hmonth, hmonth'⟩, hday, hday'⟩ := s.date.isDay
  have hday'' : s.date.day ≤ 31 := by
    have hle : daysIn s.date.year s.date.month ≤ 31 := by
      grind [daysIn]
    omega
  have htime := s.isTime
  rw [IsTime] at htime
  have hnanos : s.nanos % 1000000000 < 1000000000 := Nat.mod_lt _ (by decide)
  -- each reader takes the part that is written for it and leaves the next one
  rw [Stamp.text]
  simp only [List.append_assoc, List.cons_append]
  rw [parts, run_bind_ok (run_year hfirst hlast), run_bind_ok (run_mark (by decide)),
    run_bind_ok (run_field hmonth hmonth' (by omega)), run_bind_ok (run_mark (by decide)),
    run_bind_ok (run_field hday hday'' (by omega)), run_bind_ok run_dayMark,
    run_bind_ok (run_field (Nat.zero_le _) (by omega) (by omega)),
    run_bind_ok (run_mark (by decide)),
    run_bind_ok (run_field (Nat.zero_le _) (by omega) (by omega)),
    run_bind_ok (run_mark (by decide)),
    run_bind_ok (run_field (Nat.zero_le _) (by omega) (by omega)),
    run_bind_ok (run_fraction hnanos), run_bind_ok (run_blanks (by decide)), run_bind_ok run_zone]
  rfl

theorem shift?_zero (s : Stamp) : s.shift? 0 = some s := by
  have hbefore : ¬ (s.second : Int) < 0 := by omega
  have hafter : ¬ 86400 ≤ (s.second : Int) := by
    have htime := s.isTime.1
    omega
  simp only [Stamp.shift?, Int.add_zero, if_neg hbefore, if_neg hafter, Int.toNat_natCast,
    Stamp.ofParts?, dif_pos s.isTime]

/-- Parts in universal time name a stamp when they show its date and time of day. -/
theorem stamp_of_parts {p : Parts} {s : Stamp}
    (hdate : Date.ofNumbers? p.year p.month p.day = some s.date)
    (hsecond : p.hour * 3600 + p.minute * 60 + (if p.second = 60 then 59 else p.second) = s.second)
    (hnanos : p.nanos + (if p.second = 60 then 1000000000 else 0) = s.nanos)
    (hoffset : p.offset = 0) : p.stamp = .ok s := by
  have hparts : Stamp.ofParts? s.date s.second s.nanos = some s := by
    rw [Stamp.ofParts?, dif_pos s.isTime]
  simp only [Parts.stamp, hdate, hsecond, hnanos, hparts, hoffset, Int.neg_zero, shift?_zero]
  rfl

theorem stamp_partsOf (s : Stamp) : (partsOf s).stamp = .ok s := by
  have htime := s.isTime
  rw [IsTime] at htime
  apply stamp_of_parts
  case hdate => exact Date.ofNumbers?_eq s.date
  case hoffset => rfl
  -- Only in a leap second do more than a thousand million nanoseconds belong to one second.
  all_goals
    by_cases hleap : (partsOf s).second = 60
    · rw [if_pos hleap]
      simp only [partsOf] at hleap ⊢
      omega
    · rw [if_neg hleap]
      simp only [partsOf] at hleap ⊢
      omega

end StampReader

open StampReader in
theorem Stamp.ofText_text (s : Stamp) : Stamp.ofText s.text = .ok s := by
  rw [Stamp.ofText, run_parts]
  exact stamp_partsOf s

end TurnTaking.Time
