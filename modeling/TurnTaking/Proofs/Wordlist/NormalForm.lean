import TurnTaking.Proofs.Text.LowerCase
import TurnTaking.Wordlist
/-!
# Words in normal form

A word list holds normal forms only, and the normal form of a normal form is itself. So it makes
no difference whether a word is looked up as it stands or in normal form.

The main statement is `recognises_by_normalForm`, which says what the entries of a list are like
and which words it recognises, for every way in which a list is made.
-/

namespace TurnTaking

open Text

/-! ## Normal forms -/

theorem trim_normalForm (w : Word) : trim (normalForm w) = normalForm w := by
  rw [normalForm, lower_trim]
  exact strip_strip isBlank (lower w)

theorem lower_normalForm (w : Word) : lower (normalForm w) = normalForm w :=
  lower_lower (trim w)

@[simp] theorem normalForm_normalForm (w : Word) : normalForm (normalForm w) = normalForm w := by
  conv_lhs => rw [normalForm, trim_normalForm, lower_normalForm]

theorem normalForm_trim (w : Word) : normalForm (trim w) = normalForm w :=
  congrArg lower (strip_strip isBlank w)

theorem normalForm_lower (w : Word) : normalForm (lower w) = normalForm w := by
  rw [normalForm, ← lower_trim, lower_lower]
  rfl

namespace Wordlist

/-! ## How lists are made -/

/-- What a list is made from: some fragments, or a text with commas and a default for it. -/
inductive Source where
  | given (fragments : List Word)
  | written (raw : Option String) (default : List String)

/-- The fragments that a list is made from: the pieces of the text between its commas or, without
a text or with an empty one, the default. -/
def Source.fragments : Source → List Word
  | given fragments => fragments
  | written (some text) default =>
    if text = "" then default.map (·.toList) else splitWhere (· == ',') text.toList
  | written none default => default.map (·.toList)

/-- The list that is made. -/
def Source.list : Source → Wordlist
  | given fragments => ofFragments fragments
  | written raw default => ofOverride raw default

theorem Source.list_eq (source : Source) : source.list = ofFragments source.fragments := by
  cases source with
  | given fragments => rfl
  | written raw default =>
    cases raw with
    | none => rfl
    | some text =>
      by_cases h : text = ""
      · simp [list, ofOverride, fragments, h]
      · simp [list, ofOverride, fragments, h]

theorem Source.mem_entries_iff {source : Source} {w : Word} :
    w ∈ source.list.entries ↔ w ≠ [] ∧ ∃ f ∈ source.fragments, normalForm f = w := by
  rw [source.list_eq]
  exact mem_ofFragments

/-- Entries are in normal form. -/
theorem Source.normalForm_of_mem {source : Source} {w : Word} (hw : w ∈ source.list.entries) :
    normalForm w = w := by
  obtain ⟨-, f, -, rfl⟩ := mem_entries_iff.1 hw
  exact normalForm_normalForm f

/-- A word is recognised just if its normal form is an entry. -/
theorem Source.recognises_eq (source : Source) (q : Word) :
    source.list.recognises q = source.list.entries.has (normalForm q) := by
  rw [recognises, Bool.eq_iff_iff, Bool.or_eq_true]
  constructor
  · rintro (hasis | hnormal)
    · rw [Source.normalForm_of_mem (WordSet.has_iff.1 hasis)]
      exact hasis
    · exact hnormal
  · intro hnormal
    exact Or.inr hnormal

/-- Whatever a list is made from, its entries are not empty, have no blanks at their ends and are
in lower case. It recognises a word just if one of the fragments has the same normal form and this
is not empty. To look a word up as it stands never decides; and blanks at the ends of a word and
its case are of no account. -/
theorem recognises_by_normalForm (source : Source) :
    (∀ w ∈ source.list.entries, w ≠ [] ∧ BareEnds isBlank w ∧ lower w = w) ∧
      ∀ q,
        (source.list.recognises q = true ↔
          ∃ f ∈ source.fragments, lower (trim f) = lower (trim q) ∧ lower (trim q) ≠ []) ∧
        (source.list.entries.has q = true → source.list.entries.has (normalForm q) = true) ∧
        source.list.recognises q = source.list.entries.has (normalForm q) ∧
        source.list.recognises (trim q) = source.list.recognises q ∧
        source.list.recognises (lower q) = source.list.recognises q := by
  constructor
  · intro w hw
    have hnormal := Source.normalForm_of_mem hw
    refine ⟨(Source.mem_entries_iff.1 hw).1, ?_, ?_⟩
    · rw [← strip_eq_self_iff, ← hnormal]
      exact trim_normalForm w
    · rw [← hnormal]
      exact lower_normalForm w
  · intro q
    refine ⟨?_, ?_, source.recognises_eq q, ?_, ?_⟩
    · rw [source.recognises_eq, WordSet.has_iff, Source.mem_entries_iff]
      constructor
      · rintro ⟨hne, f, hf, heq⟩
        exact ⟨f, hf, heq, hne⟩
      · rintro ⟨f, hf, heq, hne⟩
        exact ⟨hne, f, hf, heq⟩
    · intro hasis
      rw [Source.normalForm_of_mem (WordSet.has_iff.1 hasis)]
      exact hasis
    · rw [source.recognises_eq, source.recognises_eq, normalForm_trim]
    · rw [source.recognises_eq, source.recognises_eq, normalForm_lower]

/-- A list with a final sigma and a letter whose lower case has two characters. -/
theorem recognises_by_normalForm_two_characters :
    let source : Source := .written (some " ΟΔΟΣ,, İzmir\u3000, \t") ["stop"]
    "οδος".toList ∈ source.list.entries ∧ lower "οδος".toList = "οδος".toList ∧
      source.list.recognises "\u00A0i\u0307zMİR".toList = false ∧
      source.list.recognises "\u00A0i\u0307zMIR".toList = true ∧
      source.list.entries.has "İzmir".toList = false := by
  intro source
  have hentry : "οδος".toList ∈ source.list.entries := by
    rw [← WordSet.has_iff]
    decide +kernel
  obtain ⟨hentries, hquery⟩ := recognises_by_normalForm source
  refine ⟨hentry, (hentries _ hentry).2.2, by decide +kernel, ?_, by decide +kernel⟩
  apply (hquery _).1.2
  refine ⟨" İzmir\u3000".toList, by decide +kernel, by decide +kernel, by decide +kernel⟩

end Wordlist

end TurnTaking
