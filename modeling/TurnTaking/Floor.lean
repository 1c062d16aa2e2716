import TurnTaking.Phase
import TurnTaking.Time.Duration
/-!
# The floor

Who has the floor: whether the agent speaks, when it last began and when it last stopped. What is
said while the agent speaks, or within a grace window after it stopped, overlaps its speech.

The main statement is `change_of_not_touches`: a phase change in which neither phase is speaking
leaves the floor as it is.
-/

namespace TurnTaking

open Time

/-- What is known of the agent's speech. -/
structure Floor where
  speaking : Bool
  startedAt : Option Instant
  endedAt : Option Instant
deriving DecidableEq, Repr

namespace Floor

/-- The floor before the agent has said anything. -/
def quiet : Floor :=
  ⟨false, none, none⟩

/-- Whether a phase change enters or leaves speaking. -/
def touches (old new : Phase) : Bool :=
  new.isSpeaking || old.isSpeaking

/-- The floor after a phase change. -/
def change (f : Floor) (old new : Phase) (now : Instant) : Floor :=
  if new.isSpeaking then { f with speaking := true, startedAt := some now }
  else if old.isSpeaking then { f with speaking := false, endedAt := some now }
  else f

/-- The time since the agent last stopped, if it ever did; none at all if it stops later. -/
def sinceEnded (f : Floor) (now : Instant) : Option Duration :=
  f.endedAt.map now.since

/-- Whether what is said now overlaps the agent's speech. -/
def overlaps (f : Floor) (now : Instant) (grace : Duration) : Bool :=
  f.speaking ||
    match f.sinceEnded now with
    | some passed => decide (passed < grace)
    | none => false

theorem change_of_not_touches {old new : Phase} (h : touches old new = false) (f : Floor)
    (now : Instant) : f.change old new now = f := by
  simp only [touches, Bool.or_eq_false_iff] at h
  simp [change, h.1, h.2]

end Floor

end TurnTaking
