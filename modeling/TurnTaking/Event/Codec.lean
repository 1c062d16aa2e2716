import TurnTaking.Event
import TurnTaking.Json.Choice
import TurnTaking.Json.Print
/-!
# Events as JSON

How events and reports are written and read. An event is a record whose field `type` holds the
name of its kind, and a measurement a record whose field `kind` does. A time of creation may be
left out of an event, but not out of a report.
-/

namespace TurnTaking

open Json Time

/-! ## Names -/

/-- The name of a phase as a value. -/
def Phase.toJson (p : Phase) : Json :=
  .str p.label

/-- Reads the name of a phase. -/
def Phase.read (source : Source) : Reader Phase :=
  choice (Phase.all.map fun p => (p.label, p)) source

/-- The name of an action as a value. -/
def Action.toJson (a : Action) : Json :=
  .str a.label

/-- Reads the name of an action. -/
def Action.read (source : Source) : Reader Action :=
  choice (Action.all.map fun a => (a.label, a)) source

/-- The name of a kind as a value. -/
def EventKind.toJson (k : EventKind) : Json :=
  .str k.label

/-- The kinds by name. -/
def EventKind.table : List (String × EventKind) :=
  EventKind.all.map fun k => (k.label, k)

/-- Reads the name of a kind. -/
def EventKind.read (source : Source) : Reader EventKind :=
  choice EventKind.table source

/-- Reads a time of creation. -/
def CreatedAt.read : Reader CreatedAt := fun v =>
  (Reader.stamp v).map .stamped

/-! ## Phase changes and transcripts -/

/-- The fields of a phase change. -/
def PhaseChange.fields (source : Source) : Fields PhaseChange :=
  PhaseChange.mk
    <$> .required "old_state" (Phase.read source)
    <*> .required "new_state" (Phase.read source)
    <*> .optional "created_at" CreatedAt.read .onArrival

/-- Reads a phase change. -/
def PhaseChange.read (source : Source) : Reader PhaseChange :=
  (PhaseChange.fields source).read "struct AgentStateChangedEvent" source

/-- The members of a phase change. -/
def PhaseChange.members (arrival : String) (e : PhaseChange) : List (String × Json) :=
  [("old_state", e.old.toJson), ("new_state", e.new.toJson),
   ("created_at", .str (e.createdAt.text arrival))]

/-- The fields of a transcript. -/
def Utterance.fields : Fields Utterance :=
  Utterance.mk
    <$> .required "transcript" Reader.string
    <*> .required "is_final" Reader.boolean
    <*> .optional "speaker_id" (Reader.nullable Reader.string) none
    <*> .optional "created_at" CreatedAt.read .onArrival

/-- Reads a transcript. -/
def Utterance.read (source : Source) : Reader Utterance :=
  Utterance.fields.read "struct UserInputTranscribedEvent" source

/-- The members of a transcript; a speaker who is not known is left out. -/
def Utterance.members (arrival : String) (e : Utterance) : List (String × Json) :=
  [("transcript", .str e.transcript), ("is_final", .bool e.isFinal)] ++
    (e.speaker.map fun s => ("speaker_id", Json.str s)).toList ++
    [("created_at", .str (e.createdAt.text arrival))]

/-! ## Measurements -/

/-- The kinds of measurements. -/
inductive MetricsKind where
  | llm
  | tts
  | stt
  | eou
deriving DecidableEq, Repr

/-- The kinds of measurements by name. -/
def MetricsKind.table : List (String × MetricsKind) :=
  [("llm", .llm), ("tts", .tts), ("stt", .stt), ("eou", .eou)]

/-- The fields of a kind of measurement. -/
def MetricsKind.fields : MetricsKind → Fields Metrics
  | llm =>
    Metrics.llm
      <$> .required "prompt_tokens" Reader.word
      <*> .required "completion_tokens" Reader.word
      <*> .optional "duration_ms" Reader.word 0
  | tts =>
    Metrics.tts
      <$> .required "characters" Reader.word
      <*> .required "audio_duration_ms" Reader.word
  | stt => Metrics.stt <$> .required "audio_duration_ms" Reader.word
  | eou =>
    Metrics.eou
      <$> .required "end_of_utterance_delay_ms" Reader.word
      <*> .optional "transcription_delay_ms" Reader.word 0

/-- How messages call a record of a kind of measurement. -/
def MetricsKind.what : MetricsKind → String
  | llm => "struct variant UsageMetrics::Llm"
  | tts => "struct variant UsageMetrics::Tts"
  | stt => "struct variant UsageMetrics::Stt"
  | eou => "struct variant UsageMetrics::Eou"

/-- Reads a measurement whose parts all denote something. -/
def Metrics.readHeld (source : Source) : Reader Metrics := fun v => do
  let (kind, rest) ← tagged "UsageMetrics" "kind" MetricsKind.table source v
  kind.fields.read kind.what .held rest

/-- Reads a measurement that stands inside `level` arrays and objects. -/
def Metrics.read (level : Nat) (source : Source) : Reader Metrics :=
  match source with
  | .text => heldBack level (Metrics.readHeld .text)
  | .held => Metrics.readHeld .held

/-- A measurement as a value. -/
def Metrics.toJson : Metrics → Json
  | llm promptTokens completionTokens durationMs =>
    .obj [("kind", .str "llm"), ("prompt_tokens", .nat promptTokens),
      ("completion_tokens", .nat completionTokens), ("duration_ms", .nat durationMs)]
  | tts characters audioDurationMs =>
    .obj [("kind", .str "tts"), ("characters", .nat characters),
      ("audio_duration_ms", .nat audioDurationMs)]
  | stt audioDurationMs =>
    .obj [("kind", .str "stt"), ("audio_duration_ms", .nat audioDurationMs)]
  | eou endOfUtteranceDelayMs transcriptionDelayMs =>
    .obj [("kind", .str "eou"), ("end_of_utterance_delay_ms", .nat endOfUtteranceDelayMs),
      ("transcription_delay_ms", .nat transcriptionDelayMs)]

/-- The only field of the record around a measurement. -/
def Metrics.carrierFields (source : Source) : Fields Metrics :=
  .required "metrics" (Metrics.read 1 source)

/-- Reads the record around a measurement. -/
def Metrics.readCarrier (source : Source) : Reader Metrics :=
  (Metrics.carrierFields source).read "struct MetricsCollectedEvent" source

/-- The members of the record around a measurement. -/
def Metrics.members (m : Metrics) : List (String × Json) :=
  [("metrics", m.toJson)]

/-! ## Events -/

/-- Reads the record of an event whose kind is known. -/
def Event.readKind : EventKind → Reader Event
  | .phaseChange => fun v => (PhaseChange.read .held v).map .phaseChange
  | .utterance => fun v => (Utterance.read .held v).map .utterance
  | .metrics => fun v => (Metrics.readCarrier .held v).map .metrics

/-- Reads an event that stands inside `level` arrays and objects. -/
def Event.read (level : Nat) : Reader Event :=
  heldBack level fun v => do
    let (kind, rest) ← tagged "SessionEvent" "type" EventKind.table .text v
    Event.readKind kind rest

/-- The members of an event, its kind aside. -/
def Event.members (arrival : String) : Event → List (String × Json)
  | phaseChange e => e.members arrival
  | utterance e => e.members arrival
  | metrics m => m.members

/-- An event as a value. -/
def Event.toJson (arrival : String) (e : Event) : Json :=
  .obj (("type", e.kind.toJson) :: e.members arrival)

/-! ## Reports -/

/-- The fields of the report of a phase change. -/
def PhaseReport.fields (source : Source) : Fields PhaseReport :=
  PhaseReport.mk
    <$> .required "old_state" (Phase.read source)
    <*> .required "new_state" (Phase.read source)
    <*> .required "speaking" Reader.boolean
    <*> .required "tracker_updated" Reader.boolean
    <*> .required "created_at" CreatedAt.read

/-- Reads the report of a phase change. -/
def PhaseReport.read (source : Source) : Reader PhaseReport :=
  (PhaseReport.fields source).read "struct AgentSpeakingEvent" source

/-- The report of a phase change as a value. -/
def PhaseReport.toJson (arrival : String) (r : PhaseReport) : Json :=
  .obj [("old_state", r.old.toJson), ("new_state", r.new.toJson), ("speaking", .bool r.speaking),
    ("tracker_updated", .bool r.touched), ("created_at", .str (r.createdAt.text arrival))]

/-- The fields of the report of a transcript. -/
def TurnReport.fields (source : Source) : Fields TurnReport :=
  (fun transcript overlapping backchannel command action =>
    ⟨transcript, ⟨backchannel, command, overlapping⟩, action⟩)
    <$> .required "transcript" Reader.string
    <*> .required "overlapping" Reader.boolean
    <*> .required "soft" Reader.boolean
    <*> .required "hard" Reader.boolean
    <*> .required "action" (Action.read source)

/-- Reads the report of a transcript. -/
def TurnReport.read (source : Source) : Reader TurnReport :=
  (TurnReport.fields source).read "struct TurnDecisionEvent" source

/-- The report of a transcript as a value. -/
def TurnReport.toJson (r : TurnReport) : Json :=
  .obj [("transcript", .str r.transcript), ("overlapping", .bool r.cues.overlapping),
    ("soft", .bool r.cues.backchannel), ("hard", .bool r.cues.command),
    ("action", r.action.toJson)]

end TurnTaking
