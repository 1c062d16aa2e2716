import TurnTaking.Moderator
import TurnTaking.Proofs.Text.Recased
import TurnTaking.Proofs.Wordlist.Overrides
/-!
# The case of letters in settings and transcripts

Recased words have the same normal form, and a comma is no letter. So the overrides of a vocabulary
and the transcripts that are judged by it can be written in any case, also where other letters stand
among those from A to Z.

The main statement is `judge_recased`.
-/

namespace TurnTaking

open Text Time

/-! ## Words -/

theorem normalForm_plainLower (w : Word) : normalForm (plainLower w) = normalForm w := by
  have htrim : trim (plainLower w) = plainLower (trim w) := strip_map isBlank_toLower w
  rw [normalForm, htrim, lower_plainLower]
  rfl

theorem Text.Recased.normalForm_eq {w v : Word} (h : Recased w v) :
    normalForm w = normalForm v := by
  rw [← normalForm_plainLower w, ← normalForm_plainLower v, h.plainLower_eq]

/-! ## Overrides -/

theorem isComma_toLower (c : Char) : isComma c.toLower = isComma c :=
  toLower_kept (by decide +kernel) c

/-- The pieces of a text between its commas have the same normal forms, whatever the case of its
plain letters is. -/
theorem pieces_plainLower (s : List Char) :
    (splitWhere isComma (plainLower s)).map normalForm = (splitWhere isComma s).map normalForm := by
  rw [plainLower, splitWhere_map isComma_toLower, List.map_map]
  refine List.map_congr_left ?_
  intro piece _
  exact normalForm_plainLower piece

namespace Wordlist

/-- Some letters from A to Z of a text in the other case. -/
def RecasedText (text text' : String) : Prop :=
  Recased text.toList text'.toList

variable {raw raw' : Option String}

/-- Recased overrides stand for the same list. -/
theorem ofOverride_recased (h : Option.Rel RecasedText raw raw') (default : List String) :
    ofOverride raw default = ofOverride raw' default := by
  cases h with
  | none => rfl
  | @some text text' hrecased =>
    have hpieces : (fragmentsOf text).map normalForm = (fragmentsOf text').map normalForm := by
      rw [fragmentsOf, fragmentsOf, ← pieces_plainLower text.toList, hrecased.plainLower_eq,
        pieces_plainLower]
    -- there are no letters in an empty text, so both are empty or none is
    have hlength : text.toList.length = text'.toList.length := List.Forall₂.length_eq hrecased
    by_cases hempty : text = ""
    · subst hempty
      have hempty' : text' = "" := by
        rw [← String.toList_eq_nil_iff, ← List.length_eq_zero_iff, ← hlength]
        rfl
      rw [hempty']
    · have hempty' : text' ≠ "" := by
        rintro rfl
        apply hempty
        rw [← String.toList_eq_nil_iff, ← List.length_eq_zero_iff, hlength]
        rfl
      apply ofOverride_congr hempty hempty'
      intro w _
      rw [hpieces]

end Wordlist

open Wordlist (RecasedText)

/-- Recased overrides give the same vocabulary. -/
theorem Vocabulary.ofOverrides_recased
    {backchannels backchannels' commands commands' : Option String}
    (hbackchannels : Option.Rel RecasedText backchannels backchannels')
    (hcommands : Option.Rel RecasedText commands commands') :
    ofOverrides backchannels commands = ofOverrides backchannels' commands' := by
  rw [ofOverrides, ofOverrides, Wordlist.ofOverride_recased hbackchannels,
    Wordlist.ofOverride_recased hcommands]

/-- The same settings come of look-ups that give the same grace window and recased word lists. -/
theorem Settings.ofLookup_recased {look look' : String → Option String}
    (hgrace : look graceKey = look' graceKey)
    (hbackchannels : Option.Rel RecasedText (look backchannelsKey) (look' backchannelsKey))
    (hcommands : Option.Rel RecasedText (look commandsKey) (look' commandsKey)) :
    ofLookup look = ofLookup look' := by
  rw [ofLookup, ofLookup, hgrace, Vocabulary.ofOverrides_recased hbackchannels hcommands]

/-! ## Transcripts -/

/-- Recased transcripts are heard alike. -/
theorem Cues.heard_recased {transcript transcript' : String}
    (h : RecasedText transcript transcript') :
    heard transcript = heard transcript' :=
  h.normalForm_eq

/-- Recased transcripts have the same cues. -/
theorem Cues.ofTranscript_recased {transcript transcript' : String}
    (h : RecasedText transcript transcript') (floor : Floor) (now : Instant) (grace : Duration)
    (vocabulary : Vocabulary) :
    ofTranscript transcript floor now grace vocabulary =
      ofTranscript transcript' floor now grace vocabulary := by
  rw [ofTranscript, ofTranscript, Cues.heard_recased h]

namespace Moderator

/-- Some letters from A to Z are written in the other case, in a transcript and in the overrides of
either word list. Then the word lists are the same, and so are the settings that they are looked up
for; and whatever is known of the floor, the transcript has the same cues and the same is decided. -/
theorem judge_recased {transcript transcript' : String}
    {backchannels backchannels' commands commands' : Option String}
    (htranscript : RecasedText transcript transcript')
    (hbackchannels : Option.Rel RecasedText backchannels backchannels')
    (hcommands : Option.Rel RecasedText commands commands') :
    Vocabulary.ofOverrides backchannels commands =
      Vocabulary.ofOverrides backchannels' commands' ∧
    (∀ look look' : String → Option String,
      look Settings.graceKey = look' Settings.graceKey →
      look Settings.backchannelsKey = backchannels →
      look' Settings.backchannelsKey = backchannels' →
      look Settings.commandsKey = commands → look' Settings.commandsKey = commands' →
      Settings.ofLookup look = Settings.ofLookup look') ∧
    ∀ (floor : Floor) (now : Instant) (grace : Duration),
      Cues.ofTranscript transcript floor now grace
          (Vocabulary.ofOverrides backchannels commands) =
        Cues.ofTranscript transcript' floor now grace
          (Vocabulary.ofOverrides backchannels' commands') ∧
      ∀ isFinal,
        (Moderator.mk ⟨Vocabulary.ofOverrides backchannels commands, grace⟩ floor).judge
            transcript isFinal now =
          (Moderator.mk ⟨Vocabulary.ofOverrides backchannels' commands', grace⟩ floor).judge
            transcript' isFinal now := by
  have hvocabulary := Vocabulary.ofOverrides_recased hbackchannels hcommands
  refine ⟨hvocabulary, ?_, ?_⟩
  · rintro look look' hgrace rfl rfl rfl rfl
    exact Settings.ofLookup_recased hgrace hbackchannels hcommands
  · intro floor now grace
    have hcues := Cues.ofTranscript_recased htranscript floor now grace
    refine ⟨?_, ?_⟩
    · rw [hvocabulary]
      exact hcues _
    · intro isFinal
      rw [hvocabulary, judge, judge, hcues]

/-- Plain letters on either side of a capital sigma, in a transcript and in an override. -/
theorem judge_recased_sigma :
    let floor : Floor := ⟨true, some ⟨0⟩, none⟩
    let m : Moderator := ⟨⟨.ofOverrides none (some "aΣ,Σb"), ⟨0⟩⟩, floor⟩
    let m' : Moderator := ⟨⟨.ofOverrides none (some "AΣ,ΣB"), ⟨0⟩⟩, floor⟩
    RecasedText "aΣ. ÀΣB" "AΣ. ÀΣb" ∧ RecasedText "aΣ,Σb" "AΣ,ΣB" ∧
      (m.judge "aΣ. ÀΣB" true ⟨1⟩).map (·.action) = some .interrupt ∧
      m.judge "aΣ. ÀΣB" true ⟨1⟩ = m'.judge "AΣ. ÀΣb" true ⟨1⟩ := by
  intro floor m m'
  have htranscript : RecasedText "aΣ. ÀΣB" "AΣ. ÀΣb" := by
    unfold RecasedText Recased
    decide +kernel
  have hcommands : RecasedText "aΣ,Σb" "AΣ,ΣB" := by
    unfold RecasedText Recased
    decide +kernel
  exact ⟨htranscript, hcommands, by decide +kernel,
    ((judge_recased htranscript .none (.some hcommands)).2.2 floor ⟨1⟩ ⟨0⟩).2 true⟩

end Moderator

end TurnTaking
