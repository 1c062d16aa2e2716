import Mathlib.Data.List.Forall2
import TurnTaking.Proofs.Text.LowerTable
import TurnTaking.Proofs.Text.Pieces
/-!
# The case of plain letters

A text is recased when some of its letters from A to Z are written in the other case, whatever else
stands in it. The other case of such a letter is a letter as well, and has the same lower case; so
neither the letters nor what stands around a capital sigma can tell the two texts apart once they
are lowered.

All of this is shown for one way to recase a text, which is to put all its plain letters in lower
case (`plainLower`): two recased texts become the same in this way. The main statements are
`lower_plainLower`, and `strip_map` and `splitWhere_map`, by which taking off the ends and cutting
do not depend on case either.
-/

namespace TurnTaking.Text

/-! ## Letters in either case -/

/-- The letters from a first one to the last one of the alphabet. -/
def alphabet (first : Char) : List Char :=
  (List.range 26).map fun i => Char.ofNat (first.toNat + i)

theorem mem_alphabet {first c : Char} (hfirst : first.toNat ≤ c.toNat)
    (hlast : c.toNat ≤ first.toNat + 25) : c ∈ alphabet first := by
  refine List.mem_map.2 ⟨c.toNat - first.toNat, List.mem_range.2 (by omega), ?_⟩
  rw [Nat.add_sub_cancel' hfirst]
  exact Char.ofNat_toNat c

/-- A character is in plain lower case, or is a capital. -/
theorem toLower_cases (c : Char) : c.toLower = c ∨ c ∈ alphabet 'A' := by
  by_cases hupper : c.val ≥ 'A'.val ∧ c.val ≤ 'Z'.val
  · exact Or.inr (mem_alphabet hupper.1 hupper.2)
  · exact Or.inl (dif_neg hupper)

/-- A character is in plain upper case, or is a small letter. -/
theorem toUpper_cases (c : Char) : c.toUpper = c ∨ c ∈ alphabet 'a' := by
  by_cases hlower : 'a'.val ≤ c.val ∧ c.val ≤ 'z'.val
  · exact Or.inr (mem_alphabet hlower.1 hlower.2)
  · exact Or.inl (dif_neg hlower)

/-- A property of characters that is the same for a capital and its counterpart does not depend on
the case of plain letters. -/
theorem toLower_kept {α : Type} [DecidableEq α] {f : Char → α}
    (h : ((alphabet 'A').all fun c => decide (f c.toLower = f c)) = true) (c : Char) :
    f c.toLower = f c := by
  rcases toLower_cases c with heq | hc
  · rw [heq]
  · exact of_decide_eq_true (List.all_eq_true.1 h c hc)

/-- A small letter is left as it is. -/
theorem toLower_toLower (c : Char) : c.toLower.toLower = c.toLower :=
  toLower_kept (f := Char.toLower) (by decide) c

/-- A letter and its capital have the same small letter. -/
theorem toLower_toUpper (c : Char) : c.toUpper.toLower = c.toLower := by
  have hsmall : ((alphabet 'a').all fun c => decide (c.toUpper.toLower = c.toLower)) = true := by
    decide
  rcases toUpper_cases c with heq | hc
  · rw [heq]
  · exact of_decide_eq_true (List.all_eq_true.1 hsmall c hc)

/-- Intervals without plain letters do not depend on the case of plain letters. -/
theorem Ranges.has_toLower {rs : Ranges}
    (h : (rs.clearOf 'A'.toNat 'Z'.toNat && rs.clearOf 'a'.toNat 'z'.toNat) = true) (c : Char) :
    rs.has c.toLower = rs.has c := by
  have hbounds : ((alphabet 'A').all fun c =>
      decide (('A'.toNat ≤ c.toNat ∧ c.toNat ≤ 'Z'.toNat) ∧
        'a'.toNat ≤ c.toLower.toNat ∧ c.toLower.toNat ≤ 'z'.toNat)) = true := by
    decide
  simp only [Bool.and_eq_true] at h
  rcases toLower_cases c with heq | hc
  · rw [heq]
  · -- a capital and its small letter both lie outside of the intervals
    obtain ⟨⟨hlow, hhigh⟩, hlow', hhigh'⟩ := of_decide_eq_true (List.all_eq_true.1 hbounds c hc)
    rw [has, has, not_contains_of_clearOf h.1 hlow hhigh, not_contains_of_clearOf h.2 hlow' hhigh']

theorem isCased_toLower (c : Char) : isCased c.toLower = isCased c :=
  toLower_kept (by decide) c

theorem isCaseIgnorable_toLower (c : Char) : isCaseIgnorable c.toLower = isCaseIgnorable c :=
  Ranges.has_toLower (by decide +kernel) c

theorem lowerChar_toLower (c : Char) : lowerChar c.toLower = lowerChar c := by
  have hcapitals : ((alphabet 'A').all fun c => decide (lowerChar c = [c.toLower])) = true := by
    decide
  rcases toLower_cases c with heq | hc
  · rw [heq]
  · have hlower : lowerChar c = [c.toLower] :=
      of_decide_eq_true (List.all_eq_true.1 hcapitals c hc)
    -- the counterpart of a capital is in lower case already
    rw [hlower]
    exact lowerChar_of_mem (hlower ▸ List.mem_singleton_self _)

theorem isBlank_toLower (c : Char) : isBlank c.toLower = isBlank c :=
  Ranges.has_toLower (by decide +kernel) c

theorem toLower_eq_sigma_iff (c : Char) : c.toLower = 'Σ' ↔ c = 'Σ' := by
  have hsame : decide (c.toLower = 'Σ') = decide (c = 'Σ') :=
    toLower_kept (f := fun c => decide (c = 'Σ')) (by decide) c
  simpa using hsame

/-! ## Recased texts -/

/-- Some letters from A to Z of a text in the other case. Neither function changes any other
character. -/
def Recased (s t : List Char) : Prop :=
  List.Forall₂ (fun c d => d = c ∨ d = c.toUpper ∨ d = c.toLower) s t

/-- A text with all its letters from A to Z in lower case. -/
def plainLower (s : List Char) : List Char :=
  s.map Char.toLower

/-- Recased texts have the same plain lower case. -/
theorem Recased.plainLower_eq {s t : List Char} (h : Recased s t) :
    plainLower s = plainLower t := by
  induction h with
  | nil => rfl
  | cons hletter _ ih =>
    rw [plainLower, plainLower, List.map_cons, List.map_cons]
    refine congrArg₂ List.cons ?_ ih
    rcases hletter with rfl | rfl | rfl
    · rfl
    · exact (toLower_toUpper _).symm
    · exact (toLower_toLower _).symm

/-! ## Lower case -/

/-- The case of plain letters does not matter when a letter is looked for. -/
theorem meetsLetter_plainLower (s : List Char) : meetsLetter (plainLower s) = meetsLetter s := by
  have hsame : isCaseIgnorable ∘ Char.toLower = isCaseIgnorable := funext isCaseIgnorable_toLower
  unfold meetsLetter plainLower
  rw [List.dropWhile_map, hsame]
  cases s.dropWhile isCaseIgnorable with
  | nil => rfl
  | cons c cs => exact isCased_toLower c

theorem lowerAfter_plainLower (before s : List Char) :
    lowerAfter (plainLower before) (plainLower s) = lowerAfter before s := by
  induction s generalizing before with
  | nil => rfl
  | cons c cs ih =>
    have hrest : lowerAfter (c.toLower :: plainLower before) (plainLower cs) =
        lowerAfter (c :: before) cs := ih (c :: before)
    have hcons : plainLower (c :: cs) = c.toLower :: plainLower cs := rfl
    rw [hcons, lowerAfter, lowerAfter, hrest, lowerSigma, lowerSigma, meetsLetter_plainLower,
      meetsLetter_plainLower, lowerChar_toLower]
    simp only [toLower_eq_sigma_iff]

/-- The case of plain letters does not matter to a text in lower case. -/
theorem lower_plainLower (s : List Char) : lower (plainLower s) = lower s :=
  lowerAfter_plainLower [] s

/-! ## Ends and pieces -/

section

variable {p : Char → Bool} {f : Char → Char}

theorem strip_map (h : ∀ c, p (f c) = p c) (s : List Char) :
    strip p (s.map f) = (strip p s).map f := by
  have hsame : p ∘ f = p := funext h
  simp only [strip, stripStart, stripEnd, List.dropWhile_map, hsame, ← List.map_reverse]

theorem splitWhere_map (h : ∀ c, p (f c) = p c) (s : List Char) :
    splitWhere p (s.map f) = (splitWhere p s).map (List.map f) := by
  induction s with
  | nil => rfl
  | cons c cs ih =>
    rw [List.map_cons, splitWhere, splitWhere, h, ih]
    cases hc : p c with
    | true => rfl
    | false =>
      rcases List.exists_cons_of_ne_nil (splitWhere_ne_nil p cs) with ⟨piece, rest, heq⟩
      rw [heq]
      rfl

end

end TurnTaking.Text
