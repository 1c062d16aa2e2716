import TurnTaking.Proofs.Text.LowerTable
import TurnTaking.Proofs.Text.Pieces
/-!
# Texts in lower case

What lower case keeps of a text. No character vanishes, so a text in lower case is empty only if
the text was; and a text in lower case stays as it is when it is lowered again.

The letters around a capital sigma decide what becomes of it, so a part of a text cannot always be
lowered on its own. It can be where the neighbours have no case: they are passed over or end the
search for a letter, and in neither case a letter is found among them.

The main statements are `lower_lower`, `lower_strip`, by which characters without case may be taken
off the ends of a text before it is lowered or after, and `words_lower`, by which the words of a
text may be lowered one by one.
-/

namespace TurnTaking.Text

variable {p : Char → Bool}

theorem lowerChar_ne_nil (c : Char) : lowerChar c ≠ [] := by
  rw [lowerChar]
  split
  · simp
  · split <;> simp

theorem lowerAfter_eq_nil_iff {before s : List Char} : lowerAfter before s = [] ↔ s = [] := by
  cases s with
  | nil => simp [lowerAfter]
  | cons c cs =>
    rw [lowerAfter]
    split <;> simp [lowerChar_ne_nil]

@[simp] theorem lower_eq_nil_iff {s : List Char} : lower s = [] ↔ s = [] :=
  lowerAfter_eq_nil_iff

@[simp] theorem isEmpty_lower (s : List Char) : (lower s).isEmpty = s.isEmpty := by
  rw [Bool.eq_iff_iff, List.isEmpty_iff, List.isEmpty_iff, lower_eq_nil_iff]

/-! ## One character after the other -/

/-- A character becomes one or more characters: what its lower case is, or a final sigma. -/
theorem exists_lowerAfter_cons (before : List Char) (c : Char) (s : List Char) :
    ∃ u, lowerAfter before (c :: s) = u ++ lowerAfter (c :: before) s ∧ u ≠ [] ∧
      ∀ d ∈ u, d ∈ lowerChar c ∨ d = 'ς' := by
  rw [lowerAfter]
  split
  · rename_i hsigma
    refine ⟨_, rfl, by simp, ?_⟩
    intro d hd
    rw [List.mem_singleton.1 hd, hsigma, lowerChar_sigma, lowerSigma]
    split
    · exact Or.inr rfl
    · exact Or.inl (List.mem_singleton_self 'σ')
  · exact ⟨lowerChar c, rfl, lowerChar_ne_nil c, fun d hd => Or.inl hd⟩

/-- Every character of a text in lower case comes from one of the text, or is a final sigma. -/
theorem mem_lowerAfter {before s : List Char} {d : Char} (h : d ∈ lowerAfter before s) :
    (∃ c ∈ s, d ∈ lowerChar c) ∨ d = 'ς' := by
  induction s generalizing before with
  | nil => cases h
  | cons c s ih =>
    rcases exists_lowerAfter_cons before c s with ⟨u, heq, -, hu⟩
    rw [heq] at h
    rcases List.mem_append.1 h with hd | hd
    · rcases hu d hd with hlower | hfinal
      · exact Or.inl ⟨c, List.mem_cons_self, hlower⟩
      · exact Or.inr hfinal
    · rcases ih hd with ⟨e, he, hlower⟩ | hfinal
      · exact Or.inl ⟨e, List.mem_cons_of_mem c he, hlower⟩
      · exact Or.inr hfinal

/-- Lower case makes no characters of a kind without case. -/
theorem Caseless.free_lower (hp : Caseless p) {s : List Char} (h : ∀ c ∈ s, p c = false) :
    ∀ d ∈ lower s, p d = false := by
  intro d hd
  rcases mem_lowerAfter hd with ⟨c, hc, hd⟩ | rfl
  · exact hp.apart c (h c hc) d hd
  · exact hp.finalSigma

/-- A text is in lower case if each of its characters is. -/
theorem lowerAfter_eq_self {before s : List Char} (h : ∀ c ∈ s, lowerChar c = [c]) :
    lowerAfter before s = s := by
  induction s generalizing before with
  | nil => rfl
  | cons c cs ih =>
    have hsigma : c ≠ 'Σ' := by
      rintro rfl
      have heq := h 'Σ' List.mem_cons_self
      rw [lowerChar_sigma] at heq
      exact absurd heq (by decide)
    rw [lowerAfter, if_neg hsigma, h c List.mem_cons_self,
      ih fun d hd => h d (List.mem_cons_of_mem c hd)]
    rfl

/-- A text in lower case stays as it is when it is lowered again. -/
@[simp] theorem lower_lower (s : List Char) : lower (lower s) = lower s := by
  apply lowerAfter_eq_self
  intro d hd
  rcases mem_lowerAfter hd with ⟨c, -, hd⟩ | rfl
  · exact lowerChar_of_mem hd
  · exact lowerChar_finalSigma

/-! ## Between characters without case -/

/-- Characters without case do not count when a letter is looked for. -/
theorem meetsLetter_append_uncased {t : List Char} (ht : ∀ c ∈ t, isCased c = false)
    (s : List Char) : meetsLetter (s ++ t) = meetsLetter s := by
  induction s with
  | nil =>
    -- among such characters the search ends at one that is no letter, or never
    unfold meetsLetter
    rw [List.nil_append]
    cases hrest : t.dropWhile isCaseIgnorable with
    | nil => rfl
    | cons c cs =>
      have hmem : c ∈ t.dropWhile isCaseIgnorable := by
        rw [hrest]
        exact List.mem_cons_self
      exact ht c ((List.dropWhile_sublist _).mem hmem)
  | cons c s ih =>
    cases hc : isCaseIgnorable c with
    | true => simpa [meetsLetter, hc] using ih
    | false => simp [meetsLetter, hc]

theorem lowerAfter_append_uncased {t : List Char} (ht : ∀ c ∈ t, isCased c = false)
    (before s : List Char) :
    lowerAfter before (s ++ t) = lowerAfter before s ++ lowerAfter (s.reverse ++ before) t := by
  induction s generalizing before with
  | nil => rfl
  | cons c s ih =>
    simp [lowerAfter, lowerSigma, meetsLetter_append_uncased ht, ih]

theorem lowerAfter_uncased_before {t : List Char} (ht : ∀ c ∈ t, isCased c = false)
    (before s : List Char) : lowerAfter (before ++ t) s = lowerAfter before s := by
  induction s generalizing before with
  | nil => rfl
  | cons c s ih =>
    have hs := ih (c :: before)
    rw [List.cons_append] at hs
    simp [lowerAfter, lowerSigma, meetsLetter_append_uncased ht, hs]

/-- A character without case is not the capital sigma. -/
theorem Caseless.ne_sigma (hp : Caseless p) {c : Char} (hc : p c = true) : c ≠ 'Σ' := by
  rintro rfl
  have heq := hp.fixed 'Σ' hc
  rw [lowerChar_sigma] at heq
  exact absurd heq (by decide)

theorem Caseless.lowerAfter_append_left (hp : Caseless p) {before behind : List Char}
    (hbefore : ∀ c ∈ before, p c = true) (hbehind : ∀ c ∈ behind, p c = true) (s : List Char) :
    lowerAfter behind (before ++ s) = before ++ lower s := by
  induction before generalizing behind with
  | nil => exact lowerAfter_uncased_before (fun c hc => hp.uncased c (hbehind c hc)) [] s
  | cons c before ih =>
    have hc : p c = true := hbefore c List.mem_cons_self
    have hrest : lowerAfter (c :: behind) (before ++ s) = before ++ lower s := by
      apply ih
      · intro d hd
        exact hbefore d (List.mem_cons_of_mem c hd)
      · intro d hd
        rcases List.mem_cons.1 hd with rfl | hd
        · exact hc
        · exact hbehind d hd
    rw [List.cons_append, lowerAfter, if_neg (hp.ne_sigma hc), hp.fixed c hc, hrest]
    rfl

/-- A text between characters without case can be lowered on its own. -/
theorem Caseless.lower_between (hp : Caseless p) {before after : List Char}
    (hbefore : ∀ c ∈ before, p c = true) (hafter : ∀ c ∈ after, p c = true) (s : List Char) :
    lower (before ++ s ++ after) = before ++ lower s ++ after := by
  have hend : ∀ behind, lowerAfter behind after = after := fun behind =>
    lowerAfter_eq_self fun c hc => hp.fixed c (hafter c hc)
  have hstart : lowerAfter [] (before ++ s) = before ++ lower s :=
    hp.lowerAfter_append_left hbefore (by simp) s
  rw [lower, lowerAfter_append_uncased (fun c hc => hp.uncased c (hafter c hc)), hend, hstart]

/-! ## Ends -/

/-- The end of a text is lowered behind what stands before it. -/
theorem exists_lowerAfter_append (before s t : List Char) :
    ∃ u, lowerAfter before (s ++ t) = u ++ lowerAfter (s.reverse ++ before) t := by
  induction s generalizing before with
  | nil => exact ⟨[], rfl⟩
  | cons c s ih =>
    rcases exists_lowerAfter_cons before c (s ++ t) with ⟨u, heq, -, -⟩
    rcases ih (c :: before) with ⟨v, hv⟩
    refine ⟨u ++ v, ?_⟩
    rw [List.cons_append, heq, hv]
    simp

theorem Caseless.bareEnds_lower (hp : Caseless p) {s : List Char} (h : BareEnds p s) :
    BareEnds p (lower s) := by
  -- what a character becomes is as free of the kind as the character is
  have hfree : ∀ c (u : List Char), p c = false → (∀ d ∈ u, d ∈ lowerChar c ∨ d = 'ς') →
      ∀ d ∈ u, p d = false := by
    intro c u hc hu d hd
    rcases hu d hd with hlower | rfl
    · exact hp.apart c hc d hlower
    · exact hp.finalSigma
  constructor
  · intro d hd
    cases s with
    | nil => cases hd
    | cons c s =>
      rcases exists_lowerAfter_cons [] c s with ⟨u, heq, hne, hu⟩
      rw [lower, heq, List.head?_append_of_ne_nil u hne] at hd
      exact hfree c u (h.1 c rfl) hu d (List.mem_of_mem_head? hd)
  · intro d hd
    rcases List.eq_nil_or_concat s with rfl | ⟨init, c, rfl⟩
    · cases hd
    · rw [List.concat_eq_append] at h hd
      rcases exists_lowerAfter_append [] init [c] with ⟨v, hv⟩
      rcases exists_lowerAfter_cons (init.reverse ++ []) c [] with ⟨u, heq, hne, hu⟩
      have hlast : (lower (init ++ [c])).getLast? = u.getLast? := by
        rw [lower, hv, heq, lowerAfter, List.append_nil, List.getLast?_append_of_ne_nil v hne]
      rw [hlast] at hd
      exact hfree c u (h.2 c (by simp)) hu d (List.mem_of_getLast? hd)

/-- Characters without case may be taken off the ends of a text before it is lowered or after. -/
theorem Caseless.lower_strip (hp : Caseless p) (s : List Char) :
    lower (strip p s) = strip p (lower s) := by
  obtain ⟨before, after, heq, hbefore, hafter⟩ := exists_strip p s
  have hlower : lower s = before ++ lower (strip p s) ++ after := by
    conv_lhs => rw [heq]
    exact hp.lower_between hbefore hafter _
  rw [hlower, strip_between hbefore hafter (hp.bareEnds_lower (bareEnds_strip p s))]

theorem lower_trim (s : List Char) : lower (trim s) = trim (lower s) :=
  caseless_isBlank.lower_strip s

/-! ## Words -/

/-- A text can be lowered in two parts that meet at a blank. -/
theorem lower_append_blank {c : Char} (hc : isBlank c = true) (s t : List Char) :
    lower (s ++ c :: t) = lower s ++ c :: lower t := by
  have hblank : ∀ d ∈ [c], isBlank d = true := by simpa using hc
  rw [lower_append_of_stop (isStop_of_isBlank hc)]
  exact congrArg _ (caseless_isBlank.lowerAfter_append_left hblank (by simp) t)

/-- Lowering a text lowers its pieces between blanks. -/
theorem splitWhere_lower (s : List Char) :
    splitWhere isBlank (lower s) = (splitWhere isBlank s).map lower := by
  induction s using cut_induction (p := isBlank) with
  | whole s hs =>
    rw [splitWhere_of_free hs, splitWhere_of_free (caseless_isBlank.free_lower hs)]
    rfl
  | cut s c t hs hc ih =>
    rw [lower_append_blank hc, splitWhere_append_cons hc, splitWhere_append_cons hc, ih,
      splitWhere_of_free hs, splitWhere_of_free (caseless_isBlank.free_lower hs)]
    rfl

/-- The words of a text may be lowered one by one. -/
theorem words_lower (s : List Char) : words (lower s) = (words s).map lower := by
  rw [words, splitWhere_lower, List.filter_map, words]
  simp only [Function.comp_def, isEmpty_lower]

end TurnTaking.Text
