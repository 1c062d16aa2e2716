import TurnTaking.Proofs.Cues.SpokenWords
/-!
# Words that can be said

The entries of a word list are only trimmed, while the words of a transcript are cut at blanks and
lose the punctuation at their ends. So an entry with a blank or with punctuation at an end cannot
be said, and every other one can.

The main statement is `live_iff_utterable`: a transcript of nothing but an entry that can be said is
recognised, and an entry that cannot be said may be left out without any effect. The marks of
punctuation are written out there.
-/

namespace TurnTaking

open Text Time

/-- A word that can be said: it has no blanks, and no punctuation at its ends. -/
def Utterable (w : Word) : Prop :=
  (∀ c ∈ w, isBlank c = false) ∧ BareEnds isPunctuation w

theorem utterable_iff {w : Word} :
    Utterable w ↔ (∀ c ∈ w, isBlank c = false) ∧
      ∀ c ∈ ['.', ',', '!', '?', ';', ':'], w.head? ≠ some c ∧ w.getLast? ≠ some c := by
  refine and_congr_right fun _ => ?_
  constructor
  · rintro ⟨hfirst, hlast⟩ c hc
    have hmark : ¬ isPunctuation c = false := by
      rw [isPunctuation_iff.2 hc]
      decide
    exact ⟨fun heq => hmark (hfirst c heq), fun heq => hmark (hlast c heq)⟩
  · intro hmarks
    have hnone : ∀ c, w.head? = some c ∨ w.getLast? = some c → isPunctuation c = false := by
      intro c hend
      rw [Bool.eq_false_iff]
      intro hc
      have hnot := hmarks c (isPunctuation_iff.1 hc)
      exact hend.elim hnot.1 hnot.2
    exact ⟨fun c hc => hnone c (Or.inl hc), fun c hc => hnone c (Or.inr hc)⟩

theorem not_utterable_iff {w : Word} :
    ¬ Utterable w ↔ (∃ c ∈ w, isBlank c = true) ∨
      ∃ c ∈ ['.', ',', '!', '?', ';', ':'], w.head? = some c ∨ w.getLast? = some c := by
  rw [utterable_iff, not_and_or]
  simp only [not_forall, not_and_or, not_not, Bool.not_eq_false, exists_prop]

/-- All that is said can be said. -/
theorem Says.utterable {text : List Char} {w : Word} (h : Says text w) : Utterable w := by
  refine ⟨h.free, ?_⟩
  obtain ⟨-, u, -, rfl⟩ := h
  exact bareEnds_strip isPunctuation u

/-- A word that can be said is the only word of the text that consists of it. -/
theorem spokenWords_of_utterable {w : Word} (hne : w ≠ []) (h : Utterable w) :
    spokenWords w = [w] := by
  have hstrip : strip isPunctuation w = w := strip_eq_self_iff.2 h.2
  rw [spokenWords, words_of_free hne h.1]
  simp [hstrip, hne]

namespace Wordlist

/-- A list without one of its words. -/
def without (l : Wordlist) (w : Word) : Wordlist :=
  ⟨.ofList (l.entries.words.filter (· ≠ w))⟩

theorem mem_without {l : Wordlist} {w v : Word} :
    v ∈ (l.without w).entries ↔ v ∈ l.entries ∧ v ≠ w := by
  rw [without, WordSet.mem_ofList, List.mem_filter, decide_eq_true_eq]
  exact Iff.rfl

/-- A list recognises all other words without one of its words. -/
theorem recognises_without {l : Wordlist} {w v : Word} (h : v ≠ w ∧ normalForm v ≠ w) :
    (l.without w).recognises v = l.recognises v := by
  have hhas : ∀ u, u ≠ w → (l.without w).entries.has u = l.entries.has u := by
    intro u hu
    rw [Bool.eq_iff_iff, WordSet.has_iff, WordSet.has_iff, mem_without]
    exact and_iff_left hu
  rw [recognises, recognises, hhas v h.1, hhas (normalForm v) h.2]

end Wordlist

namespace Cues

variable (floor : Floor) (now : Instant) (grace : Duration)

/-- A spelling of a word that can be said is recognised in either list. -/
theorem recognised_of_utterable {l : Wordlist} {w spelling : Word} (hw : w ∈ l.entries)
    (hne : w ≠ []) (h : Utterable w) (hspelling : normalForm spelling = w) (other : Wordlist) :
    (∃ c, ofTranscript (String.ofList spelling) floor now grace ⟨l, other⟩ = some c ∧
        c.backchannel = true) ∧
      ∃ c, ofTranscript (String.ofList spelling) floor now grace ⟨other, l⟩ = some c ∧
        c.command = true := by
  have htext : trim (String.ofList spelling).toList ≠ [] := by
    rw [String.toList_ofList]
    intro hblank
    apply hne
    rw [← hspelling, normalForm, hblank]
    rfl
  have hany : (wordsOf (heard (String.ofList spelling))).words.any l.recognises = true := by
    rw [heard, String.toList_ofList, hspelling, List.any_eq_true]
    refine ⟨w, ?_, ?_⟩
    · apply WordSet.mem_ofList.2
      rw [spokenWords_of_utterable hne h]
      exact List.mem_singleton_self w
    · rw [Wordlist.recognises, WordSet.has_iff.2 hw, Bool.true_or]
  constructor
  · refine ⟨_, ofTranscript_eq_some htext floor now grace ⟨l, other⟩, ?_⟩
    dsimp only
    exact hany
  · refine ⟨_, ofTranscript_eq_some htext floor now grace ⟨other, l⟩, ?_⟩
    dsimp only
    exact hany

/-- No word of a transcript is one that cannot be said, as it stands or in normal form. -/
theorem ne_of_not_utterable {w : Word} (h : ¬ Utterable w) (transcript : String) :
    ∀ v ∈ wordsOf (heard transcript), v ≠ w ∧ normalForm v ≠ w := by
  intro v hv
  have hsaid : Says (heard transcript) v := mem_wordsOf_iff.1 hv
  have hnormal : normalForm v = v := normalForm_of_spoken (mem_spokenWords_iff.2 hsaid)
  have hne : v ≠ w := by
    rintro rfl
    exact h hsaid.utterable
  rw [hnormal]
  exact ⟨hne, hne⟩

/-- A list recognises the same in a transcript without a word that cannot be said. -/
theorem any_without {w : Word} (h : ¬ Utterable w) (l : Wordlist) (transcript : String) :
    (wordsOf (heard transcript)).words.any (l.without w).recognises =
      (wordsOf (heard transcript)).words.any l.recognises := by
  have hsame : ∀ v ∈ (wordsOf (heard transcript)).words,
      (l.without w).recognises v = l.recognises v := by
    intro v hv
    exact Wordlist.recognises_without (ne_of_not_utterable h transcript v hv)
  rw [Bool.eq_iff_iff, List.any_eq_true, List.any_eq_true]
  constructor
  · rintro ⟨v, hv, hrecognised⟩
    exact ⟨v, hv, (hsame v hv).symm.trans hrecognised⟩
  · rintro ⟨v, hv, hrecognised⟩
    exact ⟨v, hv, (hsame v hv).trans hrecognised⟩

/-- An entry of a word list without blanks that neither begins nor ends with one of the six marks is
live: a transcript of nothing but the entry, or of a fragment that the entry comes from, is found to
hold it. An entry with a blank or with such a mark at an end is dead: no word of a transcript is
looked up as that entry, and without it all transcripts have the same cues. -/
theorem live_iff_utterable (source : Wordlist.Source) {w : Word} (hw : w ∈ source.list.entries)
    (other : Wordlist) :
    ((∀ c ∈ w, isBlank c = false) →
      (∀ c ∈ ['.', ',', '!', '?', ';', ':'], w.head? ≠ some c ∧ w.getLast? ≠ some c) →
      ∀ spelling, spelling = w ∨ spelling ∈ source.fragments ∧ normalForm spelling = w →
        (∃ c, ofTranscript (String.ofList spelling) floor now grace ⟨source.list, other⟩ = some c ∧
          c.backchannel = true) ∧
        ∃ c, ofTranscript (String.ofList spelling) floor now grace ⟨other, source.list⟩ = some c ∧
          c.command = true) ∧
    ((∃ c ∈ w, isBlank c = true) ∨
        (∃ c ∈ ['.', ',', '!', '?', ';', ':'], w.head? = some c ∨ w.getLast? = some c) →
      ∀ transcript,
        (∀ v ∈ wordsOf (heard transcript), v ≠ w ∧ normalForm v ≠ w) ∧
        ofTranscript transcript floor now grace ⟨source.list.without w, other⟩ =
          ofTranscript transcript floor now grace ⟨source.list, other⟩ ∧
        ofTranscript transcript floor now grace ⟨other, source.list.without w⟩ =
          ofTranscript transcript floor now grace ⟨other, source.list⟩) := by
  constructor
  · intro hfree hbare spelling hspelling
    have hsayable : Utterable w := utterable_iff.2 ⟨hfree, hbare⟩
    have hnormal : normalForm spelling = w := by
      rcases hspelling with rfl | ⟨-, hnormal⟩
      · exact Wordlist.Source.normalForm_of_mem hw
      · exact hnormal
    have hne : w ≠ [] := (Wordlist.Source.mem_entries_iff.1 hw).1
    exact recognised_of_utterable floor now grace hw hne hsayable hnormal other
  · intro hdead transcript
    have hunsayable : ¬ Utterable w := not_utterable_iff.2 hdead
    refine ⟨ne_of_not_utterable hunsayable transcript, ?_, ?_⟩
    · rw [ofTranscript, ofTranscript]
      simp only [any_without hunsayable]
    · rw [ofTranscript, ofTranscript]
      simp only [any_without hunsayable]

/-- Of three entries one is live, also as it is written in the override. One is a phrase and one
ends with a mark: both are dead, and not even the transcripts `Hold on` and `ok!` are found to hold
them. -/
theorem live_iff_utterable_phrase :
    let source : Wordlist.Source := .written (some "Hold On, ΣΑΣ ,ok!") ["stop"]
    let other := Wordlist.ofFragments []
    let cues (transcript : String) (backchannels commands : Wordlist) :=
      ofTranscript transcript .quiet ⟨0⟩ ⟨0⟩ ⟨backchannels, commands⟩
    "σας".toList ∈ source.list.entries ∧ Utterable "σας".toList ∧
      (∃ c, cues " ΣΑΣ " source.list other = some c ∧ c.backchannel = true) ∧
      "hold on".toList ∈ source.list.entries ∧ ¬ Utterable "hold on".toList ∧
      cues "Hold on" other (source.list.without "hold on".toList) =
        cues "Hold on" other source.list ∧
      cues "Hold on" other source.list = some ⟨false, false, false⟩ ∧
      "ok!".toList ∈ source.list.entries ∧ ¬ Utterable "ok!".toList ∧
      (∀ v ∈ wordsOf (heard "ok!"), v ≠ "ok!".toList ∧ normalForm v ≠ "ok!".toList) ∧
      cues "ok!" (source.list.without "ok!".toList) other = cues "ok!" source.list other ∧
      cues "ok!" source.list other = some ⟨false, false, false⟩ := by
  intro source other cues
  have hlive : "σας".toList ∈ source.list.entries := WordSet.has_iff.1 (by decide +kernel)
  have hphrase : "hold on".toList ∈ source.list.entries := WordSet.has_iff.1 (by decide +kernel)
  have hmarked : "ok!".toList ∈ source.list.entries := WordSet.has_iff.1 (by decide +kernel)
  have hsayable : Utterable "σας".toList := by
    have hfree : ("σας".toList.all fun c => !isBlank c) = true := by decide +kernel
    refine ⟨fun c hc => by simpa using List.all_eq_true.1 hfree c hc, ?_⟩
    exact strip_eq_self_iff.1 (by decide +kernel)
  obtain ⟨hfree, hbare⟩ := utterable_iff.1 hsayable
  have hspelling : " ΣΑΣ ".toList ∈ source.fragments ∧
      normalForm " ΣΑΣ ".toList = "σας".toList := by
    decide +kernel
  have hblank : (∃ c ∈ "hold on".toList, isBlank c = true) ∨
      ∃ c ∈ ['.', ',', '!', '?', ';', ':'],
        "hold on".toList.head? = some c ∨ "hold on".toList.getLast? = some c :=
    Or.inl ⟨' ', by decide +kernel, by decide⟩
  have hmark : (∃ c ∈ "ok!".toList, isBlank c = true) ∨
      ∃ c ∈ ['.', ',', '!', '?', ';', ':'],
        "ok!".toList.head? = some c ∨ "ok!".toList.getLast? = some c :=
    Or.inr ⟨'!', by decide, Or.inr (by decide +kernel)⟩
  have hfound := (live_iff_utterable .quiet ⟨0⟩ ⟨0⟩ source hlive other).1 hfree hbare _
    (Or.inr hspelling)
  have hsilent := (live_iff_utterable .quiet ⟨0⟩ ⟨0⟩ source hphrase other).2 hblank "Hold on"
  have hstill := (live_iff_utterable .quiet ⟨0⟩ ⟨0⟩ source hmarked other).2 hmark "ok!"
  exact ⟨hlive, hsayable, hfound.1, hphrase, not_utterable_iff.2 hblank, hsilent.2.2,
    by decide +kernel, hmarked, not_utterable_iff.2 hmark, hstill.1, hstill.2.1, by decide +kernel⟩

end Cues

end TurnTaking
