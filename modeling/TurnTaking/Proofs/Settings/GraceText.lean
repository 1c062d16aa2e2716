import Mathlib.Data.Nat.Cast.Field
import TurnTaking.Proofs.Number.DecimalText
import TurnTaking.Proofs.Number.NearestDecimal
import TurnTaking.Proofs.Time.StampText
import TurnTaking.Settings
/-!
# Seconds in settings

A number of seconds is rounded twice before it is a grace window: to 53 binary places when the text
is read, and then to whole nanoseconds. Below 2⁵² nanoseconds the first rounding moves a number by
less than half of a nanosecond, so that the second one undoes it. Both keep the order, and so does
the range of what is accepted.

The main statement is `readSeconds_exact_and_monotone`. It speaks of written decimals, and by
`exists_decimalText_of_readSeconds` no other text is accepted.
-/

namespace TurnTaking

open Text Number Time

/-! ## The two roundings -/

namespace Number.DecimalText

variable (t : DecimalText)

/-- The steps that the number of a decimal has, sign apart. -/
def steps : Nat :=
  let ratio :=
    Binary64.decimalRatio (readDigits (t.whole ++ t.places)) (t.exponent - t.places.length)
  Binary64.roundSteps ratio.1 ratio.2

/-- The nanoseconds of a decimal number of seconds. -/
def nanos : Nat :=
  roundEven (t.steps * nanosPerSecond) stepsPerUnit

/-- A rounded decimal depends on the number that is written alone. -/
theorem exists_ratio : ∃ num den : Nat, 0 < den ∧ t.steps = Binary64.roundSteps num den ∧
    t.magnitude * stepsPerUnit = num / den := by
  refine ⟨_, _, Binary64.decimalRatio_pos _ _, rfl, ?_⟩
  rw [Binary64.div_decimalRatio, t.magnitude_eq]

variable {t}

theorem steps_eq {num den : Nat} (hden : 0 < den) (h : t.magnitude * stepsPerUnit = num / den) :
    t.steps = Binary64.roundSteps num den := by
  obtain ⟨num', den', hden', hsteps, hratio⟩ := t.exists_ratio
  rw [h] at hratio
  have hcross : num * den' = num' * den := by
    have hq : (0 : ℚ) < den := Nat.cast_pos.2 hden
    have hq' : (0 : ℚ) < den' := Nat.cast_pos.2 hden'
    rw [div_eq_div_iff hq.ne' hq'.ne'] at hratio
    exact_mod_cast hratio
  rw [hsteps]
  apply Nat.le_antisymm
  · exact Binary64.roundSteps_le_roundSteps hden' hden hcross.ge
  · exact Binary64.roundSteps_le_roundSteps hden hden' hcross.le

theorem steps_eq_zero (h : t.magnitude = 0) : t.steps = 0 := by
  have hratio : t.magnitude * stepsPerUnit = (0 : Nat) / (1 : Nat) := by
    rw [h]
    simp
  rw [steps_eq Nat.one_pos hratio]
  exact Binary64.roundSteps_eq_zero (by decide)

theorem steps_mono {a b : DecimalText} (h : a.magnitude ≤ b.magnitude) : a.steps ≤ b.steps := by
  obtain ⟨num, den, hden, hsteps, hratio⟩ := a.exists_ratio
  obtain ⟨num', den', hden', hsteps', hratio'⟩ := b.exists_ratio
  have hle : (num : ℚ) / den ≤ num' / den' := by
    rw [← hratio, ← hratio']
    exact mul_le_mul_of_nonneg_right h (Nat.cast_nonneg _)
  rw [div_le_div_iff₀ (Nat.cast_pos.2 hden) (Nat.cast_pos.2 hden')] at hle
  rw [hsteps, hsteps']
  exact Binary64.roundSteps_le_roundSteps hden hden' (by exact_mod_cast hle)

/-- With a minus only zero is not below zero, and it is kept. -/
theorem steps_of_minus (hvalue : 0 ≤ t.value) (h : t.sign.isMinus = true) : t.steps = 0 :=
  steps_eq_zero (t.magnitude_eq_zero h hvalue)

/-- The order is kept above zero, where alone decimals are accepted. -/
theorem steps_le_of_value_le {a b : DecimalText} (h : a.value ≤ b.value)
    (hsign : a.sign.isMinus = true → a.steps = 0) : a.steps ≤ b.steps := by
  by_cases hminus : a.sign.isMinus = true
  · rw [hsign hminus]
    exact Nat.zero_le _
  · apply steps_mono
    calc a.magnitude = a.value := (a.value_of_not_minus hminus).symm
      _ ≤ b.value := h
      _ ≤ b.magnitude := b.value_le_magnitude

end Number.DecimalText

/-! ### Whole nanoseconds -/

theorem pow_le_stepsPerUnit : 2 ^ 52 * nanosPerSecond ≤ stepsPerUnit := by
  have hplaces : 82 ≤ placesBehind := by
    rw [placesBehind]
    decide
  calc 2 ^ 52 * nanosPerSecond ≤ 2 ^ 82 := by decide
    _ ≤ 2 ^ placesBehind := Nat.pow_le_pow_right (by decide) hplaces
    _ = stepsPerUnit := stepsPerUnit_eq.symm

/-- So few nanoseconds are moved by less than half of one when they are rounded to 53 places. -/
theorem roundSteps_nanos {n steps : Nat} (hn : n < 2 ^ 52)
    (hsteps : Binary64.roundSteps (n * stepsPerUnit) nanosPerSecond = steps) :
    roundEven (steps * nanosPerSecond) stepsPerUnit = n ∧
      steps < Duration.secondsLimit * stepsPerUnit := by
  have hpos := stepsPerUnit_pos
  rcases Nat.eq_zero_or_pos n with rfl | hsome
  · have hzero : 2 * (0 * stepsPerUnit) < nanosPerSecond := by
      rw [Nat.zero_mul]
      decide
    rw [← hsteps, Binary64.roundSteps_eq_zero hzero, Nat.zero_mul]
    have hround := roundEven_mul hpos 0
    rw [Nat.zero_mul] at hround
    exact ⟨hround, Nat.mul_pos (by decide) hpos⟩
  · have hplaces : 2 ^ 52 ≤ n * stepsPerUnit / nanosPerSecond := by
      rw [Nat.le_div_iff_mul_le (by decide)]
      exact pow_le_stepsPerUnit.trans (Nat.le_mul_of_pos_left _ hsome)
    have hsize : n * stepsPerUnit < 2 ^ 52 * stepsPerUnit := Nat.mul_lt_mul_of_pos_right hn hpos
    -- one part in 2⁵³ of fewer than 2⁵² nanoseconds is less than half of one
    obtain ⟨hbelow, habove⟩ := Binary64.roundSteps_close hplaces
    rw [hsteps] at hbelow habove
    constructor
    · apply roundEven_eq_of_close
      · omega
      · omega
    · have hlimit : Duration.secondsLimit = 2 ^ 64 := rfl
      rw [hlimit]
      rw [nanosPerSecond] at habove
      omega

/-! ## What is accepted -/

theorem secondsLimit_le : Duration.secondsLimit * stepsPerUnit ≤ stepsLimit := by
  have hplaces : 64 ≤ placesBefore := by
    rw [placesBefore]
    decide
  have hlimit : Duration.secondsLimit = 2 ^ 64 := rfl
  rw [stepsLimit_eq_mul, hlimit]
  exact Nat.mul_le_mul_right _ (Nat.pow_le_pow_right (by decide) hplaces)

/-- A rounded ratio is a duration unless it is below zero or too large. -/
theorem ofSeconds?_nearest_iff {negative : Bool} {num den : Nat} {d : Duration} :
    Duration.ofSeconds? (.nearest negative num den) = some d ↔
      (negative = true → Binary64.roundSteps num den = 0) ∧
        Binary64.roundSteps num den < Duration.secondsLimit * stepsPerUnit ∧
        d = ⟨roundEven (Binary64.roundSteps num den * nanosPerSecond) stepsPerUnit⟩ := by
  rcases Nat.lt_or_ge (Binary64.roundSteps num den) stepsLimit with hfinite | hinfinite
  · rw [Binary64.nearest_of_lt _ hfinite, Duration.ofSeconds?]
    simp only [Option.ite_none_left_eq_some, Option.some.injEq, Bool.or_eq_true, Bool.and_eq_true,
      bne_iff_ne, decide_eq_true_eq, not_or, not_and, not_not, Nat.not_le, and_assoc]
    grind
  · have hlimit := secondsLimit_le
    rw [Binary64.nearest_of_le _ hinfinite, Duration.ofSeconds?]
    · constructor
      · intro h
        cases h
      · rintro ⟨-, hsteps, -⟩
        omega
    · rintro negative steps ⟨⟩

section

variable {key text : String} {t : DecimalText} {d : Duration}

theorem readSeconds_eq_ok : readSeconds key text = .ok d ↔
    ∃ x, Binary64.ofText? (trim text.toList) = some x ∧ Duration.ofSeconds? x = some d := by
  rw [readSeconds]
  cases Binary64.ofText? (trim text.toList) with
  | none => simp
  | some x =>
    cases hseconds : Duration.ofSeconds? x with
    | none => simp [hseconds]
    | some e => simp [hseconds]

/-- A decimal is accepted unless it is below zero or too large once it has been rounded. -/
theorem readSeconds_decimal_iff (htext : t.Within text.toList) :
    readSeconds key text = .ok d ↔
      (t.sign.isMinus = true → t.steps = 0) ∧ t.steps < Duration.secondsLimit * stepsPerUnit ∧
        d = ⟨t.nanos⟩ := by
  rw [readSeconds_eq_ok, t.within_iff.1 htext, t.ofText?_text, Binary64.ofDecimal_eq_nearest]
  constructor
  · rintro ⟨x, hx, hd⟩
    obtain rfl := Option.some.inj hx
    exact ofSeconds?_nearest_iff.1 hd
  · intro h
    exact ⟨_, rfl, ofSeconds?_nearest_iff.2 h⟩

/-- Nothing is accepted that is not a written decimal. -/
theorem exists_decimalText_of_readSeconds (h : readSeconds key text = .ok d) :
    ∃ t : DecimalText, t.Within text.toList := by
  obtain ⟨x, hread, hseconds⟩ := readSeconds_eq_ok.1 h
  cases x with
  | finite negative steps =>
    obtain ⟨t, ht⟩ := exists_text_of_ofText? hread
    exact ⟨t, t.within_iff.2 ht⟩
  | infinite negative => cases hseconds
  | notANumber => cases hseconds

/-- A decimal that names a whole number of nanoseconds is that number. -/
theorem readSeconds_of_value {n : Nat} (hn : n < 2 ^ 52) (htext : t.Within text.toList)
    (hvalue : t.value = n / nanosPerSecond) : readSeconds key text = .ok ⟨n⟩ := by
  have hnonneg : 0 ≤ t.value := by
    rw [hvalue]
    positivity
  have hratio : t.magnitude * stepsPerUnit = (n * stepsPerUnit : Nat) / nanosPerSecond := by
    rw [t.magnitude_eq_value hnonneg, hvalue]
    push_cast
    ring
  obtain ⟨hnanos, hlimit⟩ := roundSteps_nanos hn (DecimalText.steps_eq (by decide) hratio).symm
  rw [readSeconds_decimal_iff htext, DecimalText.nanos, hnanos]
  exact ⟨DecimalText.steps_of_minus hnonneg, hlimit, rfl⟩

end

/-! ## How nanoseconds are written -/

/-- Nanoseconds as a decimal number of seconds with nine digits behind the point. -/
def nanosDecimal (n : Nat) : DecimalText where
  sign := .unwritten
  whole := Nat.toDigits 10 (n / nanosPerSecond)
  fraction := some (Stamp.padded 9 (n % nanosPerSecond))
  power := none
  isDigit_whole _ h := isDigit_of_mem h
  isDigit_fraction _ h := Stamp.isDigit_of_mem_padded h
  ne_nil := Or.inl Nat.toDigits_ne_nil

theorem value_nanosDecimal (n : Nat) : (nanosDecimal n).value = n / nanosPerSecond := by
  have hlength : (Stamp.padded 9 (n % nanosPerSecond)).length = 9 :=
    Stamp.length_padded (by decide) (Nat.mod_lt n (by decide))
  have hparts :
      ((n / nanosPerSecond : Nat) : ℚ) * nanosPerSecond + (n % nanosPerSecond : Nat) = n := by
    exact_mod_cast Nat.div_add_mod' n nanosPerSecond
  show ((readDigits (Nat.toDigits 10 (n / nanosPerSecond)) : ℚ)
    + readDigits (Stamp.padded 9 (n % nanosPerSecond))
      / 10 ^ (Stamp.padded 9 (n % nanosPerSecond)).length) * 10 ^ (0 : Int) = _
  rw [readDigits_toDigits, Stamp.readDigits_padded, hlength, ← hparts]
  have hpow : (10 : ℚ) ^ 9 = nanosPerSecond := by
    norm_num [nanosPerSecond]
  rw [hpow]
  field_simp

/-! ## Grace windows -/

theorem readGrace_of_within {t : DecimalText} {text : String} (htext : t.Within text.toList) :
    Settings.readGrace (some text) = readSeconds Settings.graceKey text := by
  have hne : (trim text.toList).isEmpty = false := by
    obtain ⟨c, cs, hbody, -⟩ := t.exists_head_body
    rw [t.within_iff.1 htext, DecimalText.text, hbody, List.isEmpty_eq_false_iff]
    simp
  rw [Settings.readGrace, hne, if_neg Bool.false_ne_true]

theorem ofLookup_grace {look : String → Option String} {text : String} {d : Duration}
    (hlook : look Settings.graceKey = some text)
    (hgrace : Settings.readGrace (some text) = .ok d) :
    ∃ s, Settings.ofLookup look = .ok s ∧ s.grace = d := by
  refine ⟨⟨.ofOverrides (look Settings.backchannelsKey) (look Settings.commandsKey), d⟩, ?_, rfl⟩
  rw [Settings.ofLookup, hlook, hgrace]
  rfl

/-- A grace window of fewer than 2⁵² nanoseconds is what its text says, to the nanosecond. The order
of decimals is kept by what they are read as, and a decimal between zero and an accepted one is
accepted too. -/
theorem readSeconds_exact_and_monotone :
    (∀ (n : Nat) (text : String), n < 2 ^ 52 → (nanosDecimal n).Within text.toList →
      (∀ key, readSeconds key text = .ok ⟨n⟩) ∧
        ∀ look, look Settings.graceKey = some text →
          ∃ s, Settings.ofLookup look = .ok s ∧ s.grace = ⟨n⟩) ∧
      ∀ (a b : DecimalText) (key key' text text' : String) (db : Duration),
        a.Within text.toList → b.Within text'.toList → a.value ≤ b.value →
        readSeconds key' text' = .ok db →
        (∀ da, readSeconds key text = .ok da → da.nanos ≤ db.nanos) ∧
          (0 ≤ a.value → ∃ da, readSeconds key text = .ok da) := by
  constructor
  · intro n text hn htext
    have hread : ∀ key, readSeconds key text = .ok ⟨n⟩ :=
      fun key => readSeconds_of_value hn htext (value_nanosDecimal n)
    refine ⟨hread, fun look hlook => ofLookup_grace hlook ?_⟩
    rw [readGrace_of_within htext]
    exact hread _
  · intro a b key key' text text' db ha hb hle hread'
    obtain ⟨-, hlimit, hdb⟩ := (readSeconds_decimal_iff hb).1 hread'
    constructor
    · intro da hread
      -- if the smaller one is written with a minus, it was accepted as zero
      obtain ⟨hsign, -, hda⟩ := (readSeconds_decimal_iff ha).1 hread
      rw [hda, hdb]
      exact roundEven_mono (Nat.mul_le_mul_right _ (DecimalText.steps_le_of_value_le hle hsign))
    · intro hvalue
      have hsign : a.sign.isMinus = true → a.steps = 0 := DecimalText.steps_of_minus hvalue
      have hsteps := DecimalText.steps_le_of_value_le hle hsign
      exact ⟨_, (readSeconds_decimal_iff ha).2 ⟨hsign, Nat.lt_of_le_of_lt hsteps hlimit, rfl⟩⟩

/-- The decimal `+45035.9962737E2`. -/
def shiftedDecimal : DecimalText where
  sign := .plus
  whole := "45035".toList
  fraction := some "9962737".toList
  power := some ⟨'E', .unwritten, ['2'], Or.inr rfl, List.all_eq_true.1 (by decide), by decide⟩
  isDigit_whole := List.all_eq_true.1 (by decide)
  isDigit_fraction := List.all_eq_true.1 (by decide)
  ne_nil := by decide

theorem readSeconds_exact_and_monotone_shifted :
    readSeconds "OVERLAP_GRACE_SECONDS" "\u3000 4503599.627370495\t" = .ok ⟨4503599627370495⟩ ∧
      ∃ d, readSeconds "OVERLAP_GRACE_SECONDS" "+45035.9962737E2" = .ok d ∧
        d.nanos ≤ 4503599627370495 := by
  obtain ⟨hexact, hmono⟩ := readSeconds_exact_and_monotone
  have hwithin : (nanosDecimal 4503599627370495).Within "\u3000 4503599.627370495\t".toList :=
    ⟨['\u3000', ' '], ['\t'], by decide, List.all_eq_true.1 (by decide),
      List.all_eq_true.1 (by decide)⟩
  have hwithin' : shiftedDecimal.Within "+45035.9962737E2".toList :=
    ⟨[], [], by decide, List.all_eq_true.1 (by decide), List.all_eq_true.1 (by decide)⟩
  have hvalue : shiftedDecimal.value = 4503599.62737 := by
    have hwhole : readDigits shiftedDecimal.whole = 45035 := by decide
    have hplaces : readDigits shiftedDecimal.places = 9962737 := by decide
    have hlength : shiftedDecimal.places.length = 7 := by decide
    have hexponent : shiftedDecimal.exponent = 2 := by decide
    rw [DecimalText.value_of_not_minus _ (by decide), DecimalText.magnitude, hwhole, hplaces,
      hlength, hexponent]
    norm_num
  have hle : shiftedDecimal.value ≤ (nanosDecimal 4503599627370495).value := by
    rw [hvalue, value_nanosDecimal, nanosPerSecond]
    norm_num
  have hread := (hexact 4503599627370495 _ (by norm_num) hwithin).1 "OVERLAP_GRACE_SECONDS"
  obtain ⟨hbound, haccept⟩ := hmono _ _ "OVERLAP_GRACE_SECONDS" _ _ _ _ hwithin' hwithin hle hread
  obtain ⟨d, hd⟩ := haccept (by rw [hvalue]; norm_num)
  exact ⟨hread, d, hd, hbound d hd⟩

end TurnTaking
