import TurnTaking.Cues
import TurnTaking.Proofs.Wordlist.NormalForm
/-!
# The words of a transcript

A transcript is lowered as a whole and then cut into words, and a capital sigma is lowered by what
stands around it, beyond the punctuation that is taken off a word. Nevertheless each word comes out
as if it had been lowered on its own: blanks end the search for a letter, and punctuation holds no
letter.

The main statement is `cues_of_said`, which says what the cues of a transcript have to do with the
words that stand in it.
-/

namespace TurnTaking

open Text Time

theorem isPunctuation_iff {c : Char} :
    isPunctuation c = true ↔ c ∈ ['.', ',', '!', '?', ';', ':'] := by
  rw [isPunctuation, List.contains_iff_mem]
  rfl

/-- Punctuation has no case. -/
theorem caseless_isPunctuation : Caseless isPunctuation := by
  have hpoints : isPunctuation = Ranges.has (punctuation.map fun d => (d.toNat, d.toNat)) := by
    funext c
    rw [Ranges.has_points]
    rfl
  rw [hpoints]
  exact Ranges.caseless (by decide +kernel)

/-- A text says a word: the word is a run of the text without the punctuation at its ends, and
something is left. -/
def Says (text : List Char) (w : Word) : Prop :=
  w ≠ [] ∧ ∃ u, IsRun text u ∧ strip isPunctuation u = w

theorem mem_spokenWords_iff {text : List Char} {w : Word} :
    w ∈ spokenWords text ↔ Says text w := by
  simp only [spokenWords, List.mem_filter, List.mem_map, mem_words_iff]
  constructor
  · rintro ⟨hrun, hne⟩
    exact ⟨by simpa using hne, hrun⟩
  · rintro ⟨hne, hrun⟩
    exact ⟨hrun, by simpa using hne⟩

theorem mem_wordsOf_iff {text : List Char} {w : Word} : w ∈ wordsOf text ↔ Says text w := by
  rw [wordsOf, WordSet.mem_ofList, mem_spokenWords_iff]

/-- Texts that say the same words have the same set of words. -/
theorem wordsOf_eq_of_says {text text' : List Char} (h : ∀ w, Says text' w ↔ Says text w) :
    wordsOf text' = wordsOf text := by
  apply WordSet.ext_mem
  intro w
  rw [mem_wordsOf_iff, mem_wordsOf_iff]
  exact h w

/-- The words of a text may be lowered one by one. -/
theorem spokenWords_lower (text : List Char) :
    spokenWords (lower text) = (spokenWords text).map lower := by
  have hstrip : strip isPunctuation ∘ lower = lower ∘ strip isPunctuation := by
    funext u
    exact (caseless_isPunctuation.lower_strip u).symm
  rw [spokenWords, words_lower, List.map_map, hstrip, ← List.map_map, List.filter_map]
  simp only [Function.comp_def, isEmpty_lower]
  rfl

/-- The words of a transcript as it is looked at are its own words in lower case. -/
theorem spokenWords_normalForm (text : List Char) :
    spokenWords (normalForm text) = (spokenWords text).map lower := by
  rw [normalForm, spokenWords_lower, spokenWords, words_trim]
  rfl

theorem wordsOf_normalForm (text : List Char) :
    wordsOf (normalForm text) = .ofList ((wordsOf text).words.map lower) := by
  apply WordSet.ext_mem
  intro w
  rw [wordsOf, spokenWords_normalForm, WordSet.mem_ofList, WordSet.mem_ofList]
  simp only [List.mem_map]
  constructor
  · rintro ⟨t, ht, rfl⟩
    exact ⟨t, WordSet.mem_ofList.2 ht, rfl⟩
  · rintro ⟨t, ht, rfl⟩
    exact ⟨t, WordSet.mem_ofList.1 ht, rfl⟩

/-- No blank stands in a word that is said. -/
theorem Says.free {text : List Char} {w : Word} (h : Says text w) :
    ∀ c ∈ w, isBlank c = false := by
  obtain ⟨-, u, ⟨-, hfree, -⟩, rfl⟩ := h
  obtain ⟨before, after, heq, -, -⟩ := exists_strip isPunctuation u
  intro c hc
  apply hfree
  rw [heq]
  simp [hc]

/-- The normal form of a word without blanks is the word in lower case. -/
theorem normalForm_of_free {w : Word} (h : ∀ c ∈ w, isBlank c = false) :
    normalForm w = lower w := by
  have htrim : trim w = w := strip_eq_self_iff.2 (bareEnds_of_free h)
  rw [normalForm, htrim]

/-- The words of a transcript as it is looked at are in normal form. -/
theorem normalForm_of_spoken {text : List Char} {w : Word}
    (h : w ∈ spokenWords (normalForm text)) : normalForm w = w := by
  rw [normalForm_of_free (mem_spokenWords_iff.1 h).free]
  rw [spokenWords_normalForm] at h
  rcases List.mem_map.1 h with ⟨t, -, rfl⟩
  exact lower_lower t

/-- Of these words a list recognises its entries. -/
theorem recognises_of_spoken {text : List Char} {w : Word}
    (h : w ∈ spokenWords (normalForm text)) (l : Wordlist) :
    l.recognises w = l.entries.has w := by
  rw [Wordlist.recognises, normalForm_of_spoken h, Bool.or_self]

namespace Cues

/-- A list recognises a word of a transcript just if a run of the transcript is one of its entries,
without the punctuation at its ends and lowered on its own. -/
theorem any_recognises_iff (l : Wordlist) (transcript : String) :
    (wordsOf (heard transcript)).words.any l.recognises = true ↔
      ∃ u, IsRun transcript.toList u ∧ strip isPunctuation u ≠ [] ∧
        lower (strip isPunctuation u) ∈ l.entries := by
  rw [heard, List.any_eq_true]
  constructor
  · rintro ⟨w, hw, hrecognised⟩
    have hspoken : w ∈ spokenWords (normalForm transcript.toList) := WordSet.mem_ofList.1 hw
    rw [recognises_of_spoken hspoken l, WordSet.has_iff] at hrecognised
    rw [spokenWords_normalForm] at hspoken
    rcases List.mem_map.1 hspoken with ⟨t, ht, rfl⟩
    obtain ⟨hne, u, hu, rfl⟩ := mem_spokenWords_iff.1 ht
    exact ⟨u, hu, hne, hrecognised⟩
  · rintro ⟨u, hu, hne, hentry⟩
    have hspoken : lower (strip isPunctuation u) ∈ spokenWords (normalForm transcript.toList) := by
      rw [spokenWords_normalForm]
      exact List.mem_map.2 ⟨_, mem_spokenWords_iff.2 ⟨hne, u, hu, rfl⟩, rfl⟩
    refine ⟨_, WordSet.mem_ofList.2 hspoken, ?_⟩
    rw [recognises_of_spoken hspoken l, WordSet.has_iff]
    exact hentry

/-- The cues of a transcript that is not blank. -/
theorem ofTranscript_eq_some {transcript : String} (h : trim transcript.toList ≠ [])
    (floor : Floor) (now : Instant) (grace : Duration) (vocabulary : Vocabulary) :
    ofTranscript transcript floor now grace vocabulary =
      some
        { backchannel := (wordsOf (heard transcript)).words.any vocabulary.backchannels.recognises
          command := (wordsOf (heard transcript)).words.any vocabulary.commands.recognises
          overlapping := floor.overlaps now grace } := by
  have hheard : heard transcript ≠ [] := by
    rw [heard, normalForm, Ne, lower_eq_nil_iff]
    exact h
  rw [ofTranscript, if_neg (by simpa using hheard)]

/-- A transcript that is not blank has cues. It holds a command just if a run of it, without the
punctuation at its ends and lowered on its own, is a command of the vocabulary, and the same is
true of a backchannel; so lowering a transcript and cutting it into words may change places. A
transcript that says the same words, in any order and however often, between any blanks and
punctuation, has the same cues. -/
theorem cues_of_said (vocabulary : Vocabulary) (floor : Floor) (now : Instant) (grace : Duration)
    {transcript : String} (htext : trim transcript.toList ≠ []) :
    let bare := strip (['.', ',', '!', '?', ';', ':'].contains ·)
    ∃ c, ofTranscript transcript floor now grace vocabulary = some c ∧
      (c.command = true ↔
        ∃ u, IsRun transcript.toList u ∧ bare u ≠ [] ∧
          lower (bare u) ∈ vocabulary.commands.entries) ∧
      (c.backchannel = true ↔
        ∃ u, IsRun transcript.toList u ∧ bare u ≠ [] ∧
          lower (bare u) ∈ vocabulary.backchannels.entries) ∧
      wordsOf (lower (trim transcript.toList)) =
        .ofList ((wordsOf transcript.toList).words.map lower) ∧
      ∀ transcript' : String, trim transcript'.toList ≠ [] →
        (∀ w, Says transcript'.toList w ↔ Says transcript.toList w) →
        ofTranscript transcript' floor now grace vocabulary = some c := by
  intro bare
  refine ⟨_, ofTranscript_eq_some htext floor now grace vocabulary, ?_, ?_, ?_, ?_⟩
  · dsimp only
    exact any_recognises_iff vocabulary.commands transcript
  · dsimp only
    exact any_recognises_iff vocabulary.backchannels transcript
  · exact wordsOf_normalForm transcript.toList
  · intro transcript' htext' hsame
    have hwords : wordsOf (heard transcript') = wordsOf (heard transcript) := by
      rw [heard, heard, wordsOf_normalForm, wordsOf_normalForm, wordsOf_eq_of_says hsame]
    rw [ofTranscript_eq_some htext', hwords]

/-- A sigma before punctuation and a blank is a final one, and one after punctuation stands alone. A
command is found between all the six marks of punctuation; the same words in another order, one of
them twice, have the same cues. -/
theorem cues_of_said_final_sigma :
    let vocabulary := Vocabulary.ofOverrides (some "ς") (some "Stop,ΑΣ")
    let transcript := "\t!;?ΑΣ.:, :Σ"
    let transcript' := "?Σ\u3000Σ!\u00A0!ΑΣ\n"
    trim transcript.toList ≠ [] ∧ trim transcript'.toList ≠ [] ∧
      ∃ c, ofTranscript transcript .quiet ⟨0⟩ ⟨0⟩ vocabulary = some c ∧ c.command = true ∧
        ¬ c.backchannel = true ∧ ofTranscript transcript' .quiet ⟨0⟩ ⟨0⟩ vocabulary = some c := by
  intro vocabulary transcript transcript'
  have htext : trim transcript.toList ≠ [] := by decide +kernel
  have htext' : trim transcript'.toList ≠ [] := by decide +kernel
  have hsame : wordsOf transcript'.toList = wordsOf transcript.toList := by decide +kernel
  obtain ⟨c, hc, hcommand, hbackchannel, -, hother⟩ :=
    cues_of_said vocabulary .quiet ⟨0⟩ ⟨0⟩ htext
  refine ⟨htext, htext', c, hc, ?_, ?_, ?_⟩
  · have hrun : "!;?ΑΣ.:,".toList ∈ words transcript.toList := by decide +kernel
    exact hcommand.2 ⟨_, mem_words_iff.1 hrun, by decide +kernel,
      WordSet.has_iff.1 (by decide +kernel)⟩
  · rw [hbackchannel]
    rintro ⟨u, hu, -, hentry⟩
    have hnone : (words transcript.toList).all fun u =>
        !vocabulary.backchannels.entries.has (lower (strip isPunctuation u)) := by
      decide +kernel
    have hnot := List.all_eq_true.1 hnone u (mem_words_iff.2 hu)
    have hhas : vocabulary.backchannels.entries.has (lower (strip isPunctuation u)) = true :=
      WordSet.has_iff.2 hentry
    rw [hhas] at hnot
    cases hnot
  · apply hother transcript' htext'
    intro w
    rw [← mem_wordsOf_iff, ← mem_wordsOf_iff, hsame]

end Cues

end TurnTaking
