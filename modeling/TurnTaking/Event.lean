import TurnTaking.Action
import TurnTaking.Time.Stamp
/-!
# Events of a conversation

What a conversation hears of: changes of the agent's phase, transcripts of what the user says, and
measurements of the services behind it.
-/

namespace TurnTaking

open Time

/-- When something was created. -/
inductive CreatedAt where
  | stamped (stamp : Stamp)
  /-- Not said, so it counts as created when it was read. -/
  | onArrival
deriving DecidableEq

/-- The text of a time of creation, where `arrival` is the text for things created on arrival. -/
def CreatedAt.text (arrival : String) : CreatedAt → String
  | stamped stamp => String.ofList stamp.text
  | onArrival => arrival

/-- A change of the agent's phase. -/
structure PhaseChange where
  old : Phase
  new : Phase
  createdAt : CreatedAt
deriving DecidableEq

/-- What the user is heard to say; final once the transcript will not change any more. -/
structure Utterance where
  transcript : String
  isFinal : Bool
  speaker : Option String
  createdAt : CreatedAt
deriving DecidableEq

/-- A measurement of one of the services. -/
inductive Metrics where
  | llm (promptTokens completionTokens durationMs : UInt64)
  | tts (characters audioDurationMs : UInt64)
  | stt (audioDurationMs : UInt64)
  | eou (endOfUtteranceDelayMs transcriptionDelayMs : UInt64)
deriving DecidableEq, Repr

/-- An event of a conversation. -/
inductive Event where
  | phaseChange (change : PhaseChange)
  | utterance (utterance : Utterance)
  | metrics (metrics : Metrics)
deriving DecidableEq

/-- The kinds of events. -/
inductive EventKind where
  | phaseChange
  | utterance
  | metrics
deriving DecidableEq, Repr

namespace EventKind

/-- All kinds. -/
def all : List EventKind :=
  [phaseChange, utterance, metrics]

/-- The name of a kind. -/
def label : EventKind → String
  | phaseChange => "agent_state_changed"
  | utterance => "user_input_transcribed"
  | metrics => "metrics_collected"

/-- The name of a kind in the description of a table. -/
def title : EventKind → String
  | phaseChange => "AgentStateChanged"
  | utterance => "UserInputTranscribed"
  | metrics => "MetricsCollected"

theorem mem_all (k : EventKind) : k ∈ all := by
  cases k <;> decide

end EventKind

/-- The kind of an event. -/
def Event.kind : Event → EventKind
  | phaseChange _ => .phaseChange
  | utterance _ => .utterance
  | metrics _ => .metrics

/-- What is reported of a phase change: the change, whether the agent speaks after it, and whether
it touched the floor. -/
structure PhaseReport where
  old : Phase
  new : Phase
  speaking : Bool
  touched : Bool
  createdAt : CreatedAt
deriving DecidableEq

/-- What is reported of a transcript: its text, its cues and what they called for. -/
structure TurnReport where
  transcript : String
  cues : Cues
  action : Action
deriving DecidableEq

end TurnTaking
