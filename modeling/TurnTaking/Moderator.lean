import TurnTaking.Event
import TurnTaking.Settings
/-!
# The moderator

The moderator of a conversation knows the settings and follows the floor. It judges the final
transcripts: what cues they give, and what these call for.
-/

namespace TurnTaking

open Time

/-- The cues of a transcript and the action that they called for. -/
structure Decision where
  cues : Cues
  action : Action
deriving DecidableEq, Repr

/-- The moderator of a conversation. -/
structure Moderator where
  settings : Settings
  floor : Floor
deriving DecidableEq

namespace Moderator

/-- A moderator who has heard nothing. -/
def fresh (settings : Settings) : Moderator :=
  ⟨settings, .quiet⟩

/-- The moderator after a change of the agent's phase. -/
def follow (m : Moderator) (old new : Phase) (now : Instant) : Moderator :=
  { m with floor := m.floor.change old new now }

/-- What is decided about a transcript: nothing while it may still change, nor if it holds
nothing but blanks. -/
def judge (m : Moderator) (transcript : String) (isFinal : Bool) (now : Instant) :
    Option Decision :=
  if isFinal then
    (Cues.ofTranscript transcript m.floor now m.settings.grace m.settings.vocabulary).map
      fun cues => ⟨cues, cues.action⟩
  else none

@[simp] theorem settings_follow (m : Moderator) (old new : Phase) (now : Instant) :
    (m.follow old new now).settings = m.settings :=
  rfl

end Moderator

end TurnTaking
