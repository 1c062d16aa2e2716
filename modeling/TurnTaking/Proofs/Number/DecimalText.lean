import Mathlib.Algebra.Order.Field.Power
import Mathlib.Data.List.TakeWhile
import Mathlib.Data.Rat.Cast.Order
import Mathlib.Tactic.FieldSimp
import Mathlib.Tactic.Linarith
import Mathlib.Tactic.Positivity
import TurnTaking.Proofs.Number.Digits
import TurnTaking.Proofs.Text.Pieces
/-!
# Written decimals

A decimal is written as a sign or none, digits before a point, a point and digits behind it or
neither, and a power of ten or none; at least one digit stands before or behind the point. What it
names is a rational number. It is read as its sign, the number of all its digits, and the power of
ten of the last one.

The main statements are `DecimalText.ofText?_text`, how a written decimal is read,
`DecimalText.magnitude_eq`, that nothing is lost by that, and `exists_text_of_ofText?`, that nothing
else is read as a finite number.
-/

namespace TurnTaking.Number

open Text

/-! ## What is written -/

/-- The sign that stands before a number. -/
inductive Sign where
  | unwritten
  | plus
  | minus
deriving DecidableEq

namespace Sign

/-- How a sign is written. -/
def text : Sign → List Char
  | unwritten => []
  | plus => ['+']
  | minus => ['-']

/-- Whether a sign is a minus. -/
def isMinus : Sign → Bool
  | minus => true
  | _ => false

end Sign

/-- A power of ten, as it is written. -/
structure PowerText where
  mark : Char
  sign : Sign
  digits : List Char
  isMark : mark = 'e' ∨ mark = 'E'
  isDigit : ∀ c ∈ digits, c.isDigit = true
  ne_nil : digits ≠ []

namespace PowerText

/-- The characters of a power of ten. -/
def text (p : PowerText) : List Char :=
  p.mark :: (p.sign.text ++ p.digits)

/-- The exponent that a power of ten writes. -/
def exponent (p : PowerText) : Int :=
  if p.sign.isMinus then -(readDigits p.digits : Int) else readDigits p.digits

end PowerText

/-- A decimal, as it is written. -/
structure DecimalText where
  sign : Sign
  whole : List Char
  /-- The digits behind the point, if there is a point. -/
  fraction : Option (List Char)
  power : Option PowerText
  isDigit_whole : ∀ c ∈ whole, c.isDigit = true
  isDigit_fraction : ∀ c ∈ fraction.getD [], c.isDigit = true
  ne_nil : whole ≠ [] ∨ fraction.getD [] ≠ []

namespace DecimalText

/-- The digits behind the point, none if there is no point. -/
def places (t : DecimalText) : List Char :=
  t.fraction.getD []

/-- The exponent of the power of ten at the end, zero if there is none. -/
def exponent (t : DecimalText) : Int :=
  t.power.elim 0 PowerText.exponent

/-- The point and the digits behind it. -/
def fractionText (t : DecimalText) : List Char :=
  t.fraction.elim [] ('.' :: ·)

/-- The power of ten at the end. -/
def powerText (t : DecimalText) : List Char :=
  t.power.elim [] PowerText.text

/-- What stands behind the sign. -/
def body (t : DecimalText) : List Char :=
  t.whole ++ (t.fractionText ++ t.powerText)

/-- The characters of a decimal. -/
def text (t : DecimalText) : List Char :=
  t.sign.text ++ t.body

/-- The number that is written, sign apart. -/
def magnitude (t : DecimalText) : ℚ :=
  (readDigits t.whole + readDigits t.places / 10 ^ t.places.length) * 10 ^ t.exponent

/-- The number that is written. -/
def value (t : DecimalText) : ℚ :=
  if t.sign.isMinus then -t.magnitude else t.magnitude

end DecimalText

/-! ## Signs -/

theorem takeSign_of_head {s : List Char} (h : ∀ c ∈ s.head?, c ≠ '-' ∧ c ≠ '+') :
    takeSign s = (false, s) := by
  unfold takeSign
  split
  · exact absurd rfl (h '-' rfl).1
  · exact absurd rfl (h '+' rfl).2
  · rfl

theorem Sign.takeSign_text_append (sign : Sign) {s : List Char}
    (h : ∀ c ∈ s.head?, c ≠ '-' ∧ c ≠ '+') : takeSign (sign.text ++ s) = (sign.isMinus, s) := by
  cases sign with
  | unwritten => exact takeSign_of_head h
  | plus => rfl
  | minus => rfl

theorem exists_sign (s : List Char) :
    ∃ sign : Sign, s = sign.text ++ (takeSign s).2 ∧ (takeSign s).1 = sign.isMinus := by
  unfold takeSign
  split
  · exact ⟨.minus, rfl, rfl⟩
  · exact ⟨.plus, rfl, rfl⟩
  · exact ⟨.unwritten, rfl, rfl⟩

/-- A digit is no sign. -/
theorem ne_sign_of_isDigit {c : Char} (h : c.isDigit = true) : c ≠ '-' ∧ c ≠ '+' :=
  ⟨ne_of_isDigit h rfl, ne_of_isDigit h rfl⟩

/-! ## Powers -/

theorem all_isDigit_iff {ds : List Char} :
    (ds.isEmpty || !ds.all Char.isDigit) = false ↔ ds ≠ [] ∧ ∀ c ∈ ds, c.isDigit = true := by
  simp

theorem PowerText.readPower_text (p : PowerText) : readPower p.text = some p.exponent := by
  have hhead : ∀ c ∈ p.digits.head?, c ≠ '-' ∧ c ≠ '+' := by
    intro c hc
    exact ne_sign_of_isDigit (p.isDigit c (List.mem_of_mem_head? hc))
  -- the digits of a power are all that follows its sign
  have hdigits := all_isDigit_iff.2 ⟨p.ne_nil, p.isDigit⟩
  rw [text, readPower, if_pos p.isMark, p.sign.takeSign_text_append hhead]
  dsimp only
  rw [hdigits, if_neg Bool.false_ne_true, exponent]

theorem exists_power {s : List Char} {e : Int} (h : readPower s = some e) :
    ∃ power : Option PowerText, s = power.elim [] PowerText.text := by
  cases s with
  | nil => exact ⟨none, rfl⟩
  | cons c cs =>
    rw [readPower] at h
    split at h
    · rename_i hmark
      obtain ⟨sign, hsign, -⟩ := exists_sign cs
      dsimp only at h
      split at h
      · cases h
      · rename_i hdigits
        obtain ⟨hne, hall⟩ := all_isDigit_iff.1 (Bool.eq_false_iff.2 hdigits)
        refine ⟨some ⟨c, sign, (takeSign cs).2, hmark, hall, hne⟩, ?_⟩
        rw [Option.elim_some, PowerText.text, ← hsign]
    · cases h

/-! ## Digits before and behind the point -/

namespace DecimalText

variable (t : DecimalText)

theorem digitsOf_powerText : digitsOf t.powerText = [] := by
  rw [powerText]
  cases t.power with
  | none => rfl
  | some p =>
    have hmark : p.mark.isDigit = false := by
      rcases p.isMark with h | h
      · rw [h]; rfl
      · rw [h]; rfl
    simp [PowerText.text, digitsOf, hmark]

theorem digitsOf_fractionText : digitsOf (t.fractionText ++ t.powerText) = [] := by
  rw [fractionText]
  cases t.fraction with
  | none => exact t.digitsOf_powerText
  | some ds => rfl

theorem digitsOf_body : digitsOf t.body = t.whole :=
  digitsOf_append t.isDigit_whole t.digitsOf_fractionText

theorem afterDigits_body : afterDigits t.body = t.fractionText ++ t.powerText :=
  afterDigits_append t.isDigit_whole t.digitsOf_fractionText

theorem takeFraction_text :
    takeFraction (t.fractionText ++ t.powerText) = (t.places, t.powerText) := by
  rw [fractionText, places]
  cases hfraction : t.fraction with
  | none =>
    -- a power begins with its mark, which is no point
    rw [powerText]
    cases t.power with
    | none => rfl
    | some p =>
      have hpoint : p.mark ≠ '.' := by
        rcases p.isMark with h | h
        · rw [h]; decide
        · rw [h]; decide
      unfold takeFraction
      split
      · next heq => exact absurd (List.cons.inj heq).1 hpoint
      · rfl
  | some ds =>
    have hds : ∀ c ∈ ds, c.isDigit = true := by
      have hplaces := t.isDigit_fraction
      rwa [hfraction] at hplaces
    show (digitsOf (ds ++ t.powerText), afterDigits (ds ++ t.powerText)) = _
    rw [digitsOf_append hds t.digitsOf_powerText, afterDigits_append hds t.digitsOf_powerText]
    rfl

theorem readPower_powerText : readPower t.powerText = some t.exponent := by
  rw [powerText, exponent]
  cases t.power with
  | none => rfl
  | some p => exact p.readPower_text

/-! ## Reading -/

/-- A digit or a point stands behind the sign. -/
theorem exists_head_body : ∃ c cs, t.body = c :: cs ∧ (c.isDigit = true ∨ c = '.') := by
  rw [body]
  cases hwhole : t.whole with
  | cons c cs =>
    have hc : c.isDigit = true := t.isDigit_whole c (by rw [hwhole]; exact List.mem_cons_self)
    exact ⟨c, _, rfl, Or.inl hc⟩
  | nil =>
    have hplaces := t.ne_nil.resolve_left (not_not_intro hwhole)
    cases hfraction : t.fraction with
    | none =>
      rw [hfraction] at hplaces
      exact absurd rfl hplaces
    | some ds =>
      rw [fractionText, hfraction]
      exact ⟨'.', _, rfl, Or.inr rfl⟩

theorem head_body_ne_sign : ∀ c ∈ t.body.head?, c ≠ '-' ∧ c ≠ '+' := by
  obtain ⟨c, cs, hbody, hc⟩ := t.exists_head_body
  rw [hbody]
  rintro d ⟨⟩
  rcases hc with hc | rfl
  · exact ne_sign_of_isDigit hc
  · decide

/-- Digits have no case. -/
theorem toLower_of_isDigit {c : Char} (h : c.isDigit = true) : c.toLower = c := by
  have hdigit : 48 ≤ c.toNat ∧ c.toNat ≤ 57 := by
    simpa [Char.isDigit, UInt32.le_iff_toNat_le] using h
  have hupper : ¬ (c.val ≥ 'A'.val ∧ c.val ≤ 'Z'.val) := by
    rintro ⟨hA, -⟩
    have hA' : 65 ≤ c.toNat := UInt32.le_iff_toNat_le.1 hA
    omega
  exact dif_neg hupper

/-- No decimal is spelled like a number that has no digits. -/
theorem map_body_ne (word : String) {d : Char} {ds : List Char} (hword : word.toList = d :: ds)
    (hdigit : d.isDigit = false) (hpoint : d ≠ '.') : t.body.map Char.toLower ≠ word.toList := by
  obtain ⟨c, cs, hbody, hc⟩ := t.exists_head_body
  rw [hbody, hword, List.map_cons]
  intro heq
  have hlower : c.toLower = c := by
    rcases hc with hc | rfl
    · exact toLower_of_isDigit hc
    · rfl
  rw [hlower] at heq
  have hd : c = d := (List.cons.inj heq).1
  rcases hc with hc | hc
  · rw [← hd, hc] at hdigit
    cases hdigit
  · exact hpoint (hd.symm.trans hc)

theorem readUnsigned_body :
    readUnsigned t.body =
      some (.decimal (readDigits (t.whole ++ t.places)) (t.exponent - t.places.length)) := by
  have hinf := t.map_body_ne "inf" rfl rfl (by decide)
  have hinfinity := t.map_body_ne "infinity" rfl rfl (by decide)
  have hnan := t.map_body_ne "nan" rfl rfl (by decide)
  have hdigits : (t.whole.isEmpty && t.places.isEmpty) = false := by
    rw [Bool.and_eq_false_iff, List.isEmpty_eq_false_iff, List.isEmpty_eq_false_iff]
    exact t.ne_nil
  rw [readUnsigned]
  dsimp only
  rw [if_neg (not_or_intro hinf hinfinity), if_neg hnan, t.afterDigits_body, t.takeFraction_text,
    t.digitsOf_body]
  dsimp only
  rw [hdigits, if_neg Bool.false_ne_true, t.readPower_powerText]
  rfl

/-- A written decimal is read as its sign, its digits and the power of ten of the last one. -/
theorem ofText?_text :
    Binary64.ofText? t.text = some (.ofDecimal t.sign.isMinus (readDigits (t.whole ++ t.places))
      (t.exponent - t.places.length)) := by
  rw [Binary64.ofText?, text, t.sign.takeSign_text_append t.head_body_ne_sign]
  dsimp only
  rw [t.readUnsigned_body]
  rfl

/-! ### Blanks -/

theorem isBlank_of_mem_sign {sign : Sign} {c : Char} (h : c ∈ sign.text) : isBlank c = false := by
  cases sign with
  | unwritten => cases h
  | plus =>
    obtain rfl := List.mem_singleton.1 h
    decide
  | minus =>
    obtain rfl := List.mem_singleton.1 h
    decide

theorem isBlank_of_mem_power {p : PowerText} {c : Char} (h : c ∈ p.text) : isBlank c = false := by
  rcases List.mem_cons.1 h with rfl | h
  · rcases p.isMark with hmark | hmark
    · rw [hmark]
      decide
    · rw [hmark]
      decide
  · rcases List.mem_append.1 h with h | h
    · exact isBlank_of_mem_sign h
    · exact isBlank_of_isDigit (p.isDigit c h)

theorem isBlank_of_mem_fraction {c : Char} (h : c ∈ t.fractionText) : isBlank c = false := by
  have hdigits := t.isDigit_fraction
  rw [fractionText] at h
  cases hfraction : t.fraction with
  | none =>
    rw [hfraction] at h
    cases h
  | some ds =>
    rw [hfraction] at h hdigits
    rcases List.mem_cons.1 h with rfl | h
    · decide
    · exact isBlank_of_isDigit (hdigits c h)

/-- No blank is written in a decimal. -/
theorem isBlank_of_mem {c : Char} (h : c ∈ t.text) : isBlank c = false := by
  rcases List.mem_append.1 h with h | h
  · exact isBlank_of_mem_sign h
  · rcases List.mem_append.1 h with h | h
    · exact isBlank_of_isDigit (t.isDigit_whole c h)
    · rcases List.mem_append.1 h with h | h
      · exact t.isBlank_of_mem_fraction h
      · rw [powerText] at h
        cases hpower : t.power with
        | none =>
          rw [hpower] at h
          cases h
        | some p =>
          rw [hpower] at h
          exact isBlank_of_mem_power h

/-- A text that is a decimal but for blanks at its ends. -/
def Within (t : DecimalText) (text : List Char) : Prop :=
  ∃ before after, text = before ++ t.text ++ after ∧ (∀ c ∈ before, isBlank c = true) ∧
    ∀ c ∈ after, isBlank c = true

theorem within_iff {text : List Char} : t.Within text ↔ trim text = t.text := by
  constructor
  · rintro ⟨before, after, rfl, hbefore, hafter⟩
    exact strip_between hbefore hafter (bareEnds_of_free fun c hc => t.isBlank_of_mem hc)
  · intro h
    obtain ⟨before, after, htext, hbefore, hafter⟩ := exists_strip isBlank text
    refine ⟨before, after, ?_, hbefore, hafter⟩
    rw [← h]
    exact htext

/-! ### What is lost -/

/-- The power of the last digit is smaller than the written one by the digits behind the point. -/
theorem magnitude_eq :
    t.magnitude = readDigits (t.whole ++ t.places) * 10 ^ (t.exponent - t.places.length) := by
  have hpow : (10 : ℚ) ^ (t.exponent - t.places.length) =
      10 ^ t.exponent / 10 ^ t.places.length := by
    rw [zpow_sub₀ (by decide), zpow_natCast]
  rw [magnitude, readDigits_append, hpow]
  push_cast
  field_simp

theorem magnitude_nonneg : 0 ≤ t.magnitude := by
  rw [magnitude]
  positivity

theorem value_of_minus (h : t.sign.isMinus = true) : t.value = -t.magnitude :=
  if_pos h

theorem value_of_not_minus (h : ¬ t.sign.isMinus = true) : t.value = t.magnitude :=
  if_neg h

theorem value_le_magnitude : t.value ≤ t.magnitude := by
  have hpos := t.magnitude_nonneg
  by_cases h : t.sign.isMinus = true
  · rw [t.value_of_minus h]
    linarith
  · exact (t.value_of_not_minus h).le

/-- With a minus only zero is not below zero. -/
theorem magnitude_eq_zero (h : t.sign.isMinus = true) (hvalue : 0 ≤ t.value) :
    t.magnitude = 0 := by
  have hpos := t.magnitude_nonneg
  rw [t.value_of_minus h] at hvalue
  linarith

theorem magnitude_eq_value (hvalue : 0 ≤ t.value) : t.magnitude = t.value := by
  by_cases h : t.sign.isMinus = true
  · rw [t.value_of_minus h, t.magnitude_eq_zero h hvalue, neg_zero]
  · exact (t.value_of_not_minus h).symm

end DecimalText

/-! ## Nothing else is read -/

theorem exists_fraction (s : List Char) :
    ∃ fraction : Option (List Char), (takeFraction s).1 = fraction.getD [] ∧
      (∀ c ∈ fraction.getD [], c.isDigit = true) ∧
      s = fraction.elim [] ('.' :: ·) ++ (takeFraction s).2 := by
  unfold takeFraction
  split
  · rename_i cs
    refine ⟨some (digitsOf cs), rfl, fun c hc => List.mem_takeWhile_imp hc, ?_⟩
    rw [Option.elim_some, List.cons_append, digitsOf_append_afterDigits]
  · exact ⟨none, rfl, by simp, rfl⟩

theorem exists_body {s : List Char} {digits : Nat} {e : Int} (sign : Sign)
    (h : readUnsigned s = some (.decimal digits e)) :
    ∃ t : DecimalText, t.sign = sign ∧ s = t.body := by
  rw [readUnsigned] at h
  dsimp only at h
  split at h
  · cases h
  · split at h
    · cases h
    · obtain ⟨fraction, hplaces, hdigits, hfraction⟩ := exists_fraction (afterDigits s)
      rw [hplaces] at h
      split at h
      · cases h
      · rename_i hsome
        obtain ⟨_, hread, -⟩ := Option.map_eq_some_iff.1 h
        obtain ⟨power, hpower⟩ := exists_power hread
        have hne : digitsOf s ≠ [] ∨ fraction.getD [] ≠ [] := by
          rwa [Bool.not_eq_true, Bool.and_eq_false_iff, List.isEmpty_eq_false_iff,
            List.isEmpty_eq_false_iff] at hsome
        have hwhole : ∀ c ∈ digitsOf s, c.isDigit = true :=
          fun c hc => List.mem_takeWhile_imp hc
        refine ⟨⟨sign, digitsOf s, fraction, power, hwhole, hdigits, hne⟩, rfl, ?_⟩
        calc s = digitsOf s ++ afterDigits s := (digitsOf_append_afterDigits s).symm
          _ = digitsOf s ++ (fraction.elim [] ('.' :: ·) ++ (takeFraction (afterDigits s)).2) := by
            rw [← hfraction]
          _ = _ := by rw [hpower]; rfl

/-- A text that is read as a finite number is a written decimal. -/
theorem exists_text_of_ofText? {s : List Char} {negative : Bool} {steps : Nat}
    (h : Binary64.ofText? s = some (.finite negative steps)) : ∃ t : DecimalText, s = t.text := by
  obtain ⟨sign, hsign, -⟩ := exists_sign s
  obtain ⟨numeral, hread, hvalue⟩ := Option.map_eq_some_iff.1 h
  cases numeral with
  | decimal digits e =>
    obtain ⟨t, ht, hbody⟩ := exists_body sign hread
    refine ⟨t, ?_⟩
    rw [DecimalText.text, ht, ← hbody]
    exact hsign
  | infinity => cases hvalue
  | notANumber => cases hvalue

end TurnTaking.Number
