import TurnTaking.Action
import TurnTaking.Json.Basic
/-!
# The tally

The counters of a conversation: what it received and what it did about it. Every counter is a word
and starts again after the greatest one.

The main statement is `Balanced.count`: whatever is counted, the number of classified transcripts
stays the sum of the numbers of the three actions.
-/

namespace TurnTaking

/-- The counters of a conversation. -/
structure Tally where
  received : UInt64
  classified : UInt64
  skipped : UInt64
  interrupts : UInt64
  clears : UInt64
  noOps : UInt64
  failures : UInt64
deriving DecidableEq, Repr

namespace Tally

/-- The counters at the start. -/
def zero : Tally :=
  ⟨0, 0, 0, 0, 0, 0, 0⟩

/-- What is counted. -/
inductive Entry where
  /-- An event has come in. -/
  | event
  /-- A transcript has been passed over. -/
  | skipped
  /-- A transcript has been classified and calls for an action. -/
  | action (a : Action)
  /-- A request to the host has failed. -/
  | failure
deriving DecidableEq, Repr

/-- The counters with one more entry. -/
def count (t : Tally) : Entry → Tally
  | .event => { t with received := t.received + 1 }
  | .skipped => { t with skipped := t.skipped + 1 }
  | .action .interrupt =>
    { t with classified := t.classified + 1, interrupts := t.interrupts + 1 }
  | .action .clearTurn => { t with classified := t.classified + 1, clears := t.clears + 1 }
  | .action .noOp => { t with classified := t.classified + 1, noOps := t.noOps + 1 }
  | .failure => { t with failures := t.failures + 1 }

/-- Whether as many transcripts have been classified as actions have been called for. -/
def Balanced (t : Tally) : Prop :=
  t.classified = t.interrupts + t.clears + t.noOps

theorem balanced_zero : zero.Balanced :=
  rfl

theorem Balanced.count {t : Tally} (h : t.Balanced) (e : Entry) : (t.count e).Balanced := by
  simp only [Balanced] at h
  rcases e with _ | _ | (_ | _ | _) | _ <;> simp only [Tally.count, Balanced, h] <;> ac_rfl

/-- The counters as a value. -/
def toJson (t : Tally) : Json :=
  .obj [("events_received", .nat t.received),
    ("transcripts_classified", .nat t.classified),
    ("transcripts_skipped", .nat t.skipped),
    ("interrupts", .nat t.interrupts),
    ("clears", .nat t.clears),
    ("no_ops", .nat t.noOps),
    ("adapter_failures", .nat t.failures)]

end Tally

end TurnTaking
