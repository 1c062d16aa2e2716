import TurnTaking.Text.Blank
import TurnTaking.Text.Case
/-!
# What the tables of letter case say

Facts about single characters that hold for all of Unicode. They are read off the tables by
comparing intervals, never character by character.

The main statements are `lowerChar_of_mem`, that a character in lower case stays as it is when it
is lowered again, and `Ranges.caseless`, by which lower case neither changes nor makes the
characters of some intervals, such as the blanks.
-/

namespace TurnTaking.Text

/-! ## Intervals -/

/-- Whether no code point from `first` to `last` lies in one of the intervals. -/
def Ranges.clearOf (rs : Ranges) (first last : Nat) : Bool :=
  rs.all fun r => last.blt r.1 || r.2.blt first

theorem Ranges.not_contains_of_clearOf {rs : Ranges} {first last code : Nat}
    (h : rs.clearOf first last = true) (hfirst : first ≤ code) (hlast : code ≤ last) :
    rs.contains code = false := by
  rw [Bool.eq_false_iff]
  intro hcode
  rcases contains_iff.1 hcode with ⟨r, hr, hlow, hhigh⟩
  have hclear := List.all_eq_true.1 h r hr
  simp only [Bool.or_eq_true, Nat.blt_eq] at hclear
  omega

/-- Whether the intervals have no code point in common with others. -/
def Ranges.apartFrom (rs others : Ranges) : Bool :=
  others.all fun r => rs.clearOf r.1 r.2

theorem Ranges.not_has_of_apartFrom {rs others : Ranges} (h : rs.apartFrom others = true) {c : Char}
    (hc : others.has c = true) : rs.has c = false := by
  rcases contains_iff.1 hc with ⟨r, hr, hlow, hhigh⟩
  exact not_contains_of_clearOf (List.all_eq_true.1 h r hr) hlow hhigh

/-! ## Runs of letters -/

theorem CaseRun.covers_iff {r : CaseRun} {code : Nat} :
    r.covers code = true ↔
      r.first ≤ code ∧ code ≤ r.last ∧ (code - r.first) % r.step = 0 := by
  simp [covers, and_assoc]

/-- The counterpart of a letter of a run. -/
def CaseRun.counterpart (r : CaseRun) (code : Nat) : Nat :=
  r.target + (code - r.first)

/-- The last counterpart of a run. -/
def CaseRun.targetLast (r : CaseRun) : Nat :=
  r.counterpart r.last

/-- A counterpart lies between the first and the last one of its run. -/
theorem CaseRun.counterpart_bounds {r : CaseRun} {code : Nat} (hcode : r.covers code = true) :
    r.target ≤ r.counterpart code ∧ r.counterpart code ≤ r.targetLast := by
  rcases covers_iff.1 hcode with ⟨hfirst, hlast, -⟩
  unfold targetLast counterpart
  omega

/-- Whether no counterpart of one run is a letter of another one: the two lie apart, or every
second code point is meant and they keep step. -/
def CaseRun.avoids (r r' : CaseRun) : Bool :=
  r.targetLast.blt r'.first || r'.last.blt r.target ||
    (decide (r.step = 2 ∨ r.first = r.last) && decide (r'.step = 2) &&
      decide (r.target % 2 ≠ r'.first % 2))

theorem CaseRun.not_covers_of_avoids {r r' : CaseRun} (h : r.avoids r' = true) {code : Nat}
    (hcode : r.covers code = true) : r'.covers (r.counterpart code) = false := by
  rw [Bool.eq_false_iff]
  intro hcovers
  obtain ⟨hlow, hhigh⟩ := counterpart_bounds hcode
  rcases covers_iff.1 hcode with ⟨hfirst, hlast, hstep⟩
  rcases covers_iff.1 hcovers with ⟨hfirst', hlast', hstep'⟩
  simp only [avoids, Bool.or_eq_true, Bool.and_eq_true, Nat.blt_eq, decide_eq_true_eq] at h
  rcases h with (hbelow | habove) | ⟨⟨hapart, htwo⟩, hparity⟩
  · omega
  · omega
  · -- both runs take every second code point, one the even ones and the other the odd ones
    unfold counterpart at hfirst' hstep'
    rw [htwo] at hstep'
    rcases hapart with htwo' | hone
    · rw [htwo'] at hstep
      omega
    · omega

/-! ## Letters and their counterparts -/

/-- Counterparts are characters, are letters of no run, and are not the dotted capital I. -/
theorem lowerRuns_targets :
    (lowerRuns.all fun r =>
      (decide (r.targetLast < 0xD800) ||
        decide (0xDFFF < r.target) && decide (r.targetLast < 0x110000)) &&
      (decide (r.targetLast < 0x130) || decide (0x130 < r.target)) &&
      lowerRuns.all r.avoids) = true := by
  decide +kernel

/-- The ways in which a character is lowered. -/
theorem lowerChar_cases (c : Char) :
    (c = 'İ' ∧ lowerChar c = ['i', '\u0307']) ∨
      (∃ r ∈ lowerRuns, r.covers c.toNat = true ∧
        lowerChar c = [Char.ofNat (r.counterpart c.toNat)]) ∨
      (c ≠ 'İ' ∧ (∀ r ∈ lowerRuns, r.covers c.toNat = false) ∧ lowerChar c = [c]) := by
  rw [lowerChar]
  split
  · left
    exact ⟨by assumption, rfl⟩
  · rename_i hdotted
    right
    split
    · rename_i r hfind
      left
      have hcovers : r.covers c.toNat = true := by
        simpa using List.find?_some hfind
      exact ⟨r, List.mem_of_find?_eq_some hfind, hcovers, rfl⟩
    · rename_i hfind
      right
      refine ⟨hdotted, ?_, rfl⟩
      intro r hr
      simpa using List.find?_eq_none.1 hfind r hr

theorem lowerChar_eq_self {c : Char} (hdotted : c ≠ 'İ')
    (h : ∀ r ∈ lowerRuns, r.covers c.toNat = false) : lowerChar c = [c] := by
  rcases lowerChar_cases c with ⟨heq, -⟩ | ⟨r, hr, hcovers, -⟩ | ⟨-, -, heq⟩
  · exact absurd heq hdotted
  · rw [h r hr] at hcovers
    cases hcovers
  · exact heq

/-- What `lowerRuns_targets` says about a single run. -/
theorem target_of_mem {r : CaseRun} (hr : r ∈ lowerRuns) :
    (r.targetLast < 0xD800 ∨ 0xDFFF < r.target ∧ r.targetLast < 0x110000) ∧
      (r.targetLast < 0x130 ∨ 0x130 < r.target) ∧ ∀ r' ∈ lowerRuns, r.avoids r' = true := by
  have hall := List.all_eq_true.1 lowerRuns_targets r hr
  simpa only [Bool.and_eq_true, Bool.or_eq_true, decide_eq_true_eq, List.all_eq_true,
    and_assoc] using hall

/-- The code point of a counterpart. -/
theorem toNat_counterpart {r : CaseRun} (hr : r ∈ lowerRuns) {code : Nat}
    (hcode : r.covers code = true) :
    (Char.ofNat (r.counterpart code)).toNat = r.counterpart code := by
  obtain ⟨hlow, hhigh⟩ := CaseRun.counterpart_bounds hcode
  have hvalid : (r.counterpart code).isValidChar := by
    rcases (target_of_mem hr).1 with hbelow | ⟨habove, hlimit⟩
    · left
      omega
    · right
      constructor
      · omega
      · omega
  rw [Char.ofNat, dif_pos hvalid]
  rfl

/-- A character in lower case stays as it is when it is lowered again. -/
theorem lowerChar_of_mem {c d : Char} (h : d ∈ lowerChar c) : lowerChar d = [d] := by
  rcases lowerChar_cases c with ⟨-, heq⟩ | ⟨r, hr, hcovers, heq⟩ | ⟨-, -, heq⟩
  · rw [heq] at h
    simp only [List.mem_cons, List.not_mem_nil, or_false] at h
    rcases h with rfl | rfl
    · decide
    · decide
  · rw [heq] at h
    have hd := List.mem_singleton.1 h
    have hcounterpart := toNat_counterpart hr hcovers
    rw [← hd] at hcounterpart
    obtain ⟨-, hdotted, havoids⟩ := target_of_mem hr
    obtain ⟨hlow, hhigh⟩ := CaseRun.counterpart_bounds hcovers
    apply lowerChar_eq_self
    · -- the dotted capital I has the code point 0x130
      rintro rfl
      have hcode : 'İ'.toNat = 0x130 := rfl
      omega
    · intro r' hr'
      rw [hcounterpart]
      exact CaseRun.not_covers_of_avoids (havoids r' hr') hcovers
  · rw [heq] at h
    rw [List.mem_singleton.1 h]
    exact heq

theorem lowerChar_sigma : lowerChar 'Σ' = ['σ'] := by
  decide

theorem lowerChar_finalSigma : lowerChar 'ς' = ['ς'] := by
  decide

/-! ## Characters without case -/

/-- A kind of characters without case: lower case leaves them as they are, and makes none of
them from other characters. -/
structure Caseless (p : Char → Bool) : Prop where
  uncased : ∀ c, p c = true → isCased c = false
  fixed : ∀ c, p c = true → lowerChar c = [c]
  apart : ∀ c, p c = false → ∀ d ∈ lowerChar c, p d = false
  finalSigma : p 'ς' = false

/-- Whether some intervals lie apart from all letters with a case, their counterparts included. -/
def Ranges.isCaseless (rs : Ranges) : Bool :=
  rs.apartFrom casedRanges &&
    lowerRuns.all (fun r => rs.clearOf r.first r.last && rs.clearOf r.target r.targetLast) &&
    ['i', '\u0307', 'ς'].all fun c => rs.clearOf c.toNat c.toNat

theorem Ranges.caseless {rs : Ranges} (h : rs.isCaseless = true) : Caseless rs.has := by
  simp only [isCaseless, Bool.and_eq_true] at h
  obtain ⟨⟨hcased, hruns⟩, hothers⟩ := h
  have hrun : ∀ r ∈ lowerRuns,
      rs.clearOf r.first r.last = true ∧ rs.clearOf r.target r.targetLast = true := by
    intro r hr
    simpa only [Bool.and_eq_true] using List.all_eq_true.1 hruns r hr
  have hother : ∀ c ∈ ['i', '\u0307', 'ς'], rs.has c = false := by
    intro c hc
    exact not_contains_of_clearOf (List.all_eq_true.1 hothers c hc) (Nat.le_refl _) (Nat.le_refl _)
  have huncased : ∀ c : Char, rs.has c = true → isCased c = false := by
    intro c hc
    rw [Bool.eq_false_iff]
    intro hletter
    rw [not_has_of_apartFrom hcased hletter] at hc
    cases hc
  constructor
  case uncased => exact huncased
  case fixed =>
    intro c hc
    apply lowerChar_eq_self
    · -- the dotted capital I is cased, and in no run
      rintro rfl
      exact absurd (huncased _ hc) (by decide)
    · intro r hr
      rw [Bool.eq_false_iff]
      intro hcovers
      rcases CaseRun.covers_iff.1 hcovers with ⟨hlow, hhigh, -⟩
      rw [has, not_contains_of_clearOf (hrun r hr).1 hlow hhigh] at hc
      cases hc
  case apart =>
    intro c hc d hd
    rcases lowerChar_cases c with ⟨-, heq⟩ | ⟨r, hr, hcovers, heq⟩ | ⟨-, -, heq⟩
    · rw [heq] at hd
      exact hother d (List.mem_append_left ['ς'] hd)
    · rw [heq] at hd
      obtain ⟨hlow, hhigh⟩ := CaseRun.counterpart_bounds hcovers
      rw [List.mem_singleton.1 hd, has, toNat_counterpart hr hcovers]
      exact not_contains_of_clearOf (hrun r hr).2 hlow hhigh
    · rw [heq] at hd
      rw [List.mem_singleton.1 hd]
      exact hc
  case finalSigma => exact hother 'ς' (by simp)

/-- Blanks have no case. -/
theorem caseless_isBlank : Caseless isBlank := by
  have hranges : blankRanges.isCaseless = true := by decide +kernel
  exact Ranges.caseless hranges

/-- A blank ends the search for a neighbouring letter. -/
theorem isStop_of_isBlank {c : Char} (hc : isBlank c = true) : isStop c = true := by
  have hapart : blankRanges.apartFrom caseIgnorableRanges = true := by decide +kernel
  have hignorable : isCaseIgnorable c = false := by
    rw [Bool.eq_false_iff]
    intro hpassed
    rw [isBlank, Ranges.not_has_of_apartFrom hapart hpassed] at hc
    cases hc
  rw [isStop, hignorable, caseless_isBlank.uncased c hc]
  rfl

/-- Single characters as intervals. -/
theorem Ranges.has_points (cs : List Char) (c : Char) :
    Ranges.has (cs.map fun d => (d.toNat, d.toNat)) c = cs.contains c := by
  rw [Bool.eq_iff_iff, has, contains_iff, List.contains_iff_mem]
  constructor
  · rintro ⟨r, hr, hlow, hhigh⟩
    rcases List.mem_map.1 hr with ⟨d, hd, rfl⟩
    rw [Char.toNat_inj.1 (Nat.le_antisymm hhigh hlow)]
    exact hd
  · intro hc
    exact ⟨(c.toNat, c.toNat), List.mem_map.2 ⟨c, hc, rfl⟩, Nat.le_refl _, Nat.le_refl _⟩

end TurnTaking.Text
