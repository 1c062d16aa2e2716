import TurnTaking.Event
import TurnTaking.Json.Basic
/-!
# Usage

The totals of the measurements of a conversation. A total stops at the greatest word; only the
number of measured pauses, which rises by one, is a plain word.
-/

namespace TurnTaking

/-- The sum of two words, or the greatest word if that is too small for it. -/
def saturatingAdd (a b : UInt64) : UInt64 :=
  if a.toNat + b.toNat < 18446744073709551616 then a + b else 0xFFFFFFFFFFFFFFFF

theorem toNat_saturatingAdd (a b : UInt64) :
    (saturatingAdd a b).toNat = min (a.toNat + b.toNat) 18446744073709551615 := by
  rw [saturatingAdd]
  split
  · rw [UInt64.toNat_add]
    omega
  · have h : (0xFFFFFFFFFFFFFFFF : UInt64).toNat = 18446744073709551615 := rfl
    omega

/-- The totals of a conversation. -/
structure Usage where
  llmPromptTokens : UInt64
  llmCompletionTokens : UInt64
  llmDurationMs : UInt64
  ttsCharacters : UInt64
  ttsAudioDurationMs : UInt64
  sttAudioDurationMs : UInt64
  eouCount : UInt64
  eouDelayTotalMs : UInt64
deriving DecidableEq, Repr

namespace Usage

/-- The totals before any measurement. -/
def zero : Usage :=
  ⟨0, 0, 0, 0, 0, 0, 0, 0⟩

/-- The totals with one more measurement. -/
def collect (u : Usage) : Metrics → Usage
  | .llm promptTokens completionTokens durationMs =>
    { u with
      llmPromptTokens := saturatingAdd u.llmPromptTokens promptTokens
      llmCompletionTokens := saturatingAdd u.llmCompletionTokens completionTokens
      llmDurationMs := saturatingAdd u.llmDurationMs durationMs }
  | .tts characters audioDurationMs =>
    { u with
      ttsCharacters := saturatingAdd u.ttsCharacters characters
      ttsAudioDurationMs := saturatingAdd u.ttsAudioDurationMs audioDurationMs }
  | .stt audioDurationMs =>
    { u with sttAudioDurationMs := saturatingAdd u.sttAudioDurationMs audioDurationMs }
  | .eou endOfUtteranceDelayMs _ =>
    { u with
      eouCount := u.eouCount + 1
      eouDelayTotalMs := saturatingAdd u.eouDelayTotalMs endOfUtteranceDelayMs }

/-- The totals with a list of measurements. -/
def collectAll (u : Usage) (ms : List Metrics) : Usage :=
  ms.foldl collect u

/-- The totals as a value. -/
def toJson (u : Usage) : Json :=
  .obj [("llm_prompt_tokens", .nat u.llmPromptTokens),
    ("llm_completion_tokens", .nat u.llmCompletionTokens),
    ("llm_duration_ms", .nat u.llmDurationMs),
    ("tts_characters", .nat u.ttsCharacters),
    ("tts_audio_duration_ms", .nat u.ttsAudioDurationMs),
    ("stt_audio_duration_ms", .nat u.sttAudioDurationMs),
    ("eou_count", .nat u.eouCount),
    ("eou_delay_total_ms", .nat u.eouDelayTotalMs)]

end Usage

end TurnTaking
