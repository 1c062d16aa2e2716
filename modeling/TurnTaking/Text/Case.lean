import TurnTaking.Text.CaseTable
/-!
# Lower case

`lower` writes a text in lower case. Nearly every letter has one counterpart (`lowerRuns`), and
the dotted capital I has two characters. A capital sigma is written in its final form at the end
of a word: when a letter stands before it and none after it, marks and inner punctuation passed
over.

The main statement is `lower_append_of_stop`: a text can be lowered in two parts that meet at a
character which is neither cased nor passed over.
-/

namespace TurnTaking.Text

/-- Whether a character has a case. -/
def isCased (c : Char) : Bool :=
  casedRanges.has c

/-- Whether a character is passed over when the neighbours of a letter are looked at. -/
def isCaseIgnorable (c : Char) : Bool :=
  caseIgnorableRanges.has c

/-- A character in lower case, its neighbours aside. -/
def lowerChar (c : Char) : List Char :=
  if c = 'İ' then ['i', '\u0307']
  else match lowerRuns.find? (·.covers c.toNat) with
    | some r => [Char.ofNat (r.target + (c.toNat - r.first))]
    | none => [c]

/-- Whether the first character that is not passed over has a case. -/
def meetsLetter (s : List Char) : Bool :=
  match s.dropWhile isCaseIgnorable with
  | c :: _ => isCased c
  | [] => false

/-- A capital sigma in lower case, between the text before it (nearest character first) and the
text after it. -/
def lowerSigma (before after : List Char) : Char :=
  if meetsLetter before && !meetsLetter after then 'ς' else 'σ'

/-- Lower case of a text that follows `before` (nearest character first). -/
def lowerAfter (before : List Char) : List Char → List Char
  | [] => []
  | c :: cs =>
    (if c = 'Σ' then [lowerSigma before cs] else lowerChar c) ++ lowerAfter (c :: before) cs

/-- A text in lower case. -/
def lower (s : List Char) : List Char :=
  lowerAfter [] s

/-- A character that ends the search for a neighbouring letter without being one. -/
def isStop (c : Char) : Bool :=
  !isCaseIgnorable c && !isCased c

/-- The capital sigma is a letter. -/
theorem isStop_sigma : isStop 'Σ' = false := by
  decide +kernel

theorem meetsLetter_append_of_stop {c : Char} (hc : isStop c = true) (s t : List Char) :
    meetsLetter (s ++ c :: t) = meetsLetter s := by
  simp only [isStop, Bool.and_eq_true, Bool.not_eq_true'] at hc
  induction s with
  | nil => simp [meetsLetter, List.dropWhile, hc.1, hc.2]
  | cons d s ih =>
    cases hd : isCaseIgnorable d with
    | true => simpa [meetsLetter, List.dropWhile, hd] using ih
    | false => simp [meetsLetter, List.dropWhile, hd]

/-- What stands behind a stop does not matter to the text after it. -/
theorem lowerAfter_of_stop {c : Char} (hc : isStop c = true) (s t before : List Char) :
    lowerAfter (s ++ c :: before) t = lowerAfter s t := by
  induction t generalizing s with
  | nil => rfl
  | cons d t ih =>
    have h := ih (d :: s)
    simp only [List.cons_append] at h
    simp [lowerAfter, h, lowerSigma, meetsLetter_append_of_stop hc]

/-- Two texts that meet at a stop can be lowered on their own. -/
theorem lower_append_of_stop {c : Char} (hc : isStop c = true) (s t : List Char) :
    lower (s ++ c :: t) = lower s ++ lowerAfter [] (c :: t) := by
  have key : ∀ before : List Char,
      lowerAfter before (s ++ c :: t) = lowerAfter before s ++ lowerAfter [] (c :: t) := by
    induction s with
    | nil =>
      intro before
      have h1 := lowerAfter_of_stop hc [] t before
      have h2 := lowerAfter_of_stop hc [] t []
      simp only [List.nil_append] at h1 h2
      by_cases hsig : c = 'Σ'
      · subst hsig
        exact absurd hc (by rw [isStop_sigma]; simp)
      · simp [lowerAfter, hsig, h1, h2]
    | cons d s ih =>
      intro before
      simp [lowerAfter, ih, lowerSigma, meetsLetter_append_of_stop hc]
  exact key []

end TurnTaking.Text
