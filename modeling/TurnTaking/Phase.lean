/-!
# Phases of the agent

What the agent of a conversation is doing. Only one phase matters for the floor: speaking.
-/

namespace TurnTaking

/-- A phase of the agent. -/
inductive Phase where
  | initializing
  | idle
  | listening
  | thinking
  | speaking
deriving DecidableEq, Repr

namespace Phase

instance : Inhabited Phase :=
  ⟨.idle⟩

/-- All phases. -/
def all : List Phase :=
  [initializing, idle, listening, thinking, speaking]

/-- The name of a phase. -/
def label : Phase → String
  | initializing => "initializing"
  | idle => "idle"
  | listening => "listening"
  | thinking => "thinking"
  | speaking => "speaking"

/-- Whether the agent speaks. -/
def isSpeaking (p : Phase) : Bool :=
  p == speaking

theorem mem_all (p : Phase) : p ∈ all := by
  cases p <;> decide

end Phase

end TurnTaking
