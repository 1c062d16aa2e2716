import TurnTaking.Cues
/-!
# What to do

A command that overlaps the agent's speech interrupts the agent. A backchannel that does so, and
no command with it, is no turn of its own and is cleared. Everything else takes its usual course.
-/

namespace TurnTaking

/-- What is done about a transcript. -/
inductive Action where
  | interrupt
  | clearTurn
  | noOp
deriving DecidableEq, Repr

namespace Action

/-- All actions. -/
def all : List Action :=
  [interrupt, clearTurn, noOp]

/-- The name of an action. -/
def label : Action → String
  | interrupt => "interrupt"
  | clearTurn => "clear_turn"
  | noOp => "no_op"

theorem mem_all (a : Action) : a ∈ all := by
  cases a <;> decide

end Action

/-- What the cues of a transcript call for. -/
def Cues.action (c : Cues) : Action :=
  if c.overlapping && c.command then .interrupt
  else if c.overlapping && c.backchannel then .clearTurn
  else .noOp

end TurnTaking
