import Mathlib.Data.List.DropRight
import TurnTaking.Text.Blank
/-!
# Ends and pieces of a text

What it comes to that characters are taken off the ends of a text, and that a text is cut.

The main statements are `strip_between`, that what stands between characters of a kind is all that
is left when they are taken off, and `mem_words_iff`, that the words of a text are its maximal runs
without a blank.
-/

namespace TurnTaking.Text

variable {p : Char → Bool}

/-! ## Ends -/

/-- A text that neither begins nor ends with a character of a kind. -/
def BareEnds (p : Char → Bool) (s : List Char) : Prop :=
  (∀ c ∈ s.head?, p c = false) ∧ ∀ c ∈ s.getLast?, p c = false

theorem bareEnds_of_free {s : List Char} (h : ∀ c ∈ s, p c = false) : BareEnds p s := by
  constructor
  · intro c hc
    exact h c (List.mem_of_mem_head? hc)
  · intro c hc
    exact h c (List.mem_of_getLast? hc)

/-- A text is what is left of it with characters of the kind around it. -/
theorem exists_strip (p : Char → Bool) (s : List Char) :
    ∃ before after, s = before ++ strip p s ++ after ∧ (∀ c ∈ before, p c = true) ∧
      ∀ c ∈ after, p c = true := by
  refine ⟨s.takeWhile p, (stripStart p s).rtakeWhile p, ?_, ?_, ?_⟩
  · have hend : strip p s ++ (stripStart p s).rtakeWhile p = stripStart p s :=
      List.rdropWhile_append_rtakeWhile
    rw [List.append_assoc, hend, stripStart, List.takeWhile_append_dropWhile]
  · intro c hc
    exact List.mem_takeWhile_imp hc
  · intro c hc
    exact List.mem_rtakeWhile_imp hc

theorem bareEnds_strip (p : Char → Bool) (s : List Char) : BareEnds p (strip p s) := by
  constructor
  · intro c hc
    -- the first character is the one at which the taking off at the start stopped
    have hprefix : strip p s <+: stripStart p s := List.rdropWhile_prefix p _
    have hstart : (stripStart p s).head? = some c := by
      rcases hprefix with ⟨after, hafter⟩
      rw [← hafter, List.head?_append, Option.mem_def.1 hc]
      rfl
    have hstop := List.head?_dropWhile_not p s
    rw [stripStart] at hstart
    rw [hstart] at hstop
    exact hstop
  · intro c hc
    have hne : strip p s ≠ [] := by
      rintro heq
      rw [heq] at hc
      cases hc
    have hstop : ¬ p ((strip p s).getLast hne) = true := List.rdropWhile_last_not p _ hne
    rw [List.getLast?_eq_some_getLast hne, Option.mem_some_iff] at hc
    rw [← hc]
    simpa using hstop

theorem stripEnd_append {s after : List Char} (hafter : ∀ c ∈ after, p c = true) :
    stripEnd p (s ++ after) = stripEnd p s := by
  have hreverse : ∀ c ∈ after.reverse, p c = true := by
    intro c hc
    exact hafter c (List.mem_reverse.1 hc)
  rw [stripEnd, List.reverse_append, List.dropWhile_append_of_pos hreverse]
  rfl

theorem stripEnd_eq_self {s : List Char} (h : ∀ c ∈ s.getLast?, p c = false) :
    stripEnd p s = s := by
  refine List.rdropWhile_eq_self_iff.2 ?_
  intro hne
  have hlast := h (s.getLast hne) (List.getLast?_eq_some_getLast hne)
  simp [hlast]

/-- What stands between characters of a kind is left when they are taken off. -/
theorem strip_between {before s after : List Char} (hbefore : ∀ c ∈ before, p c = true)
    (hafter : ∀ c ∈ after, p c = true) (h : BareEnds p s) :
    strip p (before ++ s ++ after) = s := by
  have hstart : stripStart p (before ++ s ++ after) = stripStart p (s ++ after) := by
    rw [stripStart, List.append_assoc, List.dropWhile_append_of_pos hbefore]
    rfl
  rw [strip, hstart]
  cases s with
  | nil =>
    rw [List.nil_append, stripStart, List.dropWhile_eq_nil_iff.2 hafter]
    rfl
  | cons c cs =>
    have hc : p c = false := h.1 c rfl
    have hstop : stripStart p (c :: cs ++ after) = c :: cs ++ after := by
      simp [stripStart, hc]
    rw [hstop, stripEnd_append hafter, stripEnd_eq_self h.2]

theorem strip_eq_self_iff {s : List Char} : strip p s = s ↔ BareEnds p s := by
  constructor
  · intro h
    rw [← h]
    exact bareEnds_strip p s
  · intro h
    have hs : strip p ([] ++ s ++ []) = s := strip_between (by simp) (by simp) h
    simpa using hs

@[simp] theorem strip_strip (p : Char → Bool) (s : List Char) : strip p (strip p s) = strip p s :=
  strip_eq_self_iff.2 (bareEnds_strip p s)

theorem strip_append_right {s after : List Char} (hafter : ∀ c ∈ after, p c = true) :
    strip p (s ++ after) = strip p s := by
  obtain ⟨before, after', heq, hbefore, hafter'⟩ := exists_strip p s
  have hboth : ∀ c ∈ after' ++ after, p c = true := by
    intro c hc
    rcases List.mem_append.1 hc with hc | hc
    · exact hafter' c hc
    · exact hafter c hc
  have hs := strip_between hbefore hboth (bareEnds_strip p s)
  rwa [← List.append_assoc, ← heq] at hs

theorem strip_append_left {before s : List Char} (hbefore : ∀ c ∈ before, p c = true) :
    strip p (before ++ s) = strip p s := by
  rw [strip, stripStart, List.dropWhile_append_of_pos hbefore]
  rfl

/-! ## Cutting -/

theorem splitWhere_eq_splitOnP (p : Char → Bool) (s : List Char) :
    splitWhere p s = s.splitOnP p := by
  induction s with
  | nil => rfl
  | cons c cs ih =>
    rw [splitWhere, List.splitOnP_cons_eq_if_modifyHead, ih]
    split
    · rfl
    · rcases List.exists_cons_of_ne_nil (List.splitOnP_ne_nil p cs) with ⟨piece, rest, heq⟩
      rw [heq]
      rfl

theorem splitWhere_ne_nil (p : Char → Bool) (s : List Char) : splitWhere p s ≠ [] := by
  rw [splitWhere_eq_splitOnP]
  exact List.splitOnP_ne_nil p s

/-- A text without a character at which it is cut is one piece. -/
theorem splitWhere_of_free {s : List Char} (h : ∀ c ∈ s, p c = false) : splitWhere p s = [s] := by
  rw [splitWhere_eq_splitOnP]
  exact List.splitOnP_eq_singleton h

/-- A cut divides the pieces into those before it and those after it. -/
theorem splitWhere_append_cons {c : Char} (hc : p c = true) (s t : List Char) :
    splitWhere p (s ++ c :: t) = splitWhere p s ++ splitWhere p t := by
  simp only [splitWhere_eq_splitOnP]
  exact List.splitOnP_append_cons s t hc

/-- Every text has no character of a kind, or begins with a piece without one that ends at one. -/
theorem cut_induction {motive : List Char → Prop}
    (whole : ∀ s, (∀ c ∈ s, p c = false) → motive s)
    (cut : ∀ s c t, (∀ d ∈ s, p d = false) → p c = true → motive t → motive (s ++ c :: t))
    (s : List Char) : motive s := by
  have hbehind : ∀ t u : List Char, (∀ d ∈ u, p d = false) → motive (u ++ t) := by
    intro t
    induction t with
    | nil =>
      intro u hu
      rw [List.append_nil]
      exact whole u hu
    | cons c t ih =>
      intro u hu
      cases hc : p c with
      | true => exact cut u c t hu hc (ih [] (by simp))
      | false =>
        have hmore := ih (u ++ [c]) (by
          intro d hd
          rcases List.mem_append.1 hd with hd | hd
          · exact hu d hd
          · rw [List.mem_singleton.1 hd]
            exact hc)
        simpa using hmore
  exact hbehind s [] (by simp)

/-! ## Words -/

/-- A maximal run of characters that are not blank. -/
def IsRun (s u : List Char) : Prop :=
  u ≠ [] ∧ (∀ c ∈ u, isBlank c = false) ∧
    ∃ before after, s = before ++ u ++ after ∧ (∀ c ∈ before.getLast?, isBlank c = true) ∧
      ∀ c ∈ after.head?, isBlank c = true

/-- A blank stands between words. -/
theorem words_append_cons {c : Char} (hc : isBlank c = true) (s t : List Char) :
    words (s ++ c :: t) = words s ++ words t := by
  rw [words, splitWhere_append_cons hc, List.filter_append]
  rfl

/-- A text without blanks is one word. -/
theorem words_of_free {s : List Char} (hne : s ≠ []) (h : ∀ c ∈ s, isBlank c = false) :
    words s = [s] := by
  rw [words, splitWhere_of_free h]
  simp [hne]

/-- Blanks at the start of a text are no part of a word. -/
theorem words_append_left {before : List Char} (h : ∀ c ∈ before, isBlank c = true)
    (s : List Char) : words (before ++ s) = words s := by
  induction before with
  | nil => rfl
  | cons c before ih =>
    calc words (c :: before ++ s) = words [] ++ words (before ++ s) :=
          words_append_cons (h c (by simp)) [] (before ++ s)
      _ = words (before ++ s) := rfl
      _ = words s := ih fun d hd => h d (by simp [hd])

/-- Blanks at the end of a text are no part of a word. -/
theorem words_append_right {after : List Char} (h : ∀ c ∈ after, isBlank c = true)
    (s : List Char) : words (s ++ after) = words s := by
  cases after with
  | nil => rw [List.append_nil]
  | cons c after =>
    have hnone : words (after ++ []) = words [] :=
      words_append_left (fun d hd => h d (by simp [hd])) []
    rw [List.append_nil] at hnone
    rw [words_append_cons (h c (by simp)), hnone]
    exact List.append_nil _

theorem words_trim (s : List Char) : words (trim s) = words s := by
  obtain ⟨before, after, heq, hbefore, hafter⟩ := exists_strip isBlank s
  conv_rhs => rw [heq]
  rw [words_append_right hafter, words_append_left hbefore]
  rfl

/-- What stands before and after a piece: nothing, or the character at which the text is cut. -/
theorem exists_around_piece {s : List Char} :
    ∀ u ∈ splitWhere p s, ∃ before after, s = before ++ u ++ after ∧
      (∀ c ∈ before.getLast?, p c = true) ∧ ∀ c ∈ after.head?, p c = true := by
  induction s using cut_induction (p := p) with
  | whole s hs =>
    intro u hu
    rw [splitWhere_of_free hs] at hu
    refine ⟨[], [], ?_, by simp, by simp⟩
    simpa using (List.mem_singleton.1 hu).symm
  | cut s c t hs hc ih =>
    intro u hu
    rw [splitWhere_append_cons hc, splitWhere_of_free hs] at hu
    rcases List.mem_cons.1 hu with rfl | hu
    · exact ⟨[], c :: t, by simp, by simp, by simpa using hc⟩
    · rcases ih u hu with ⟨before, after, heq, hbefore, hafter⟩
      refine ⟨s ++ c :: before, after, by simp [heq], ?_, hafter⟩
      -- the character before the piece is the cut itself if nothing stands between them
      intro d hd
      rw [List.getLast?_append, List.getLast?_cons, Option.some_or, Option.mem_some_iff] at hd
      cases hlast : before.getLast? with
      | none =>
        rw [hlast] at hd
        rw [← hd]
        exact hc
      | some e =>
        rw [hlast] at hd
        rw [← hd]
        exact hbefore e hlast

/-- The words of a text are its maximal runs. -/
theorem mem_words_iff {s u : List Char} : u ∈ words s ↔ IsRun s u := by
  constructor
  · intro hu
    have hfree := words_free s u hu
    rcases List.mem_filter.1 hu with ⟨hpiece, hne⟩
    exact ⟨by simpa using hne, hfree, exists_around_piece u hpiece⟩
  · rintro ⟨hne, hfree, before, after, rfl, hbefore, hafter⟩
    have hu : u ∈ words (u ++ after) := by
      cases after with
      | nil =>
        rw [List.append_nil, words_of_free hne hfree]
        exact List.mem_singleton_self u
      | cons c t =>
        rw [words_append_cons (hafter c rfl), words_of_free hne hfree]
        exact List.mem_cons_self
    rcases List.eq_nil_or_concat before with rfl | ⟨init, c, rfl⟩
    · exact hu
    · have hc : isBlank c = true := hbefore c (by simp)
      have heq : init.concat c ++ u ++ after = init ++ c :: (u ++ after) := by simp
      rw [heq, words_append_cons hc]
      exact List.mem_append_right _ hu

end TurnTaking.Text
