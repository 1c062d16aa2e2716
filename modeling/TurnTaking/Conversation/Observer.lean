import TurnTaking.Conversation
/-!
# Observers

An observer is a handler that notes what it sees: the kind of the event, whether the agent spoke
and how the counters stood before it acted. It may also carry out one of the standard steps once
more, when that suits the event.
-/

namespace TurnTaking

open Time

/-- The step that an observer carries out. -/
inductive ObserverStep where
  | apply
  | arbitrate
  | collect
  /-- None. -/
  | watch
deriving DecidableEq, Repr

/-- What an observer notes. -/
structure Note where
  /-- The value by which its notes are told from those of others. -/
  tag : Json
  kind : EventKind
  speaking : Bool
  tally : Tally
  /-- The action of an observer that judged the transcript. -/
  action : Option (Option Action)

/-- A note as a value. -/
def Note.toJson (n : Note) : Json :=
  .obj ([("tag", n.tag), ("kind", n.kind.toJson), ("speaking_before", .bool n.speaking),
    ("status_before", n.tally.toJson)] ++
    (n.action.map fun a => ("action", (a.map (·.toJson)).getD .null)).toList)

/-- The state after an observer's step, and the action if it judged a transcript. -/
def ObserverStep.run (s : ObserverStep) (c : Context) (e : Event) (now : Instant) :
    Context × Option (Option Action) :=
  match s, e with
  | apply, .phaseChange p => (c.applyPhase p now, none)
  | arbitrate, .utterance u =>
    let (d, action) := c.arbitrate u now
    (d, some action)
  | collect, .metrics m => (c.collect m, none)
  | _, _ => (c, none)

/-- The handler of an observer; notes are kept oldest first. -/
def observer (tag : Json) (s : ObserverStep) : Handler (Conversation (List Note)) :=
  fun c e now =>
    let (context, action) := s.run c.context e now
    { context
      notes := c.notes ++
        [⟨tag, e.kind, c.context.moderator.floor.speaking, c.context.tally, action⟩] }

end TurnTaking
