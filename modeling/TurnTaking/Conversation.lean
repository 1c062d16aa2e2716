import TurnTaking.Journal
import TurnTaking.Moderator
import TurnTaking.Outbox
import TurnTaking.Routes
/-!
# A conversation

All that belongs to one conversation: its moderator, its usage, its outbox and its journal. Events
are handled one at a time by the handlers of their kind. The standard handlers report every phase
change, judge the final transcripts, report and dispatch what is decided, and collect measurements.
When the conversation is finished its usage is reported last.
-/

namespace TurnTaking

open Time

/-- The state of a conversation. -/
structure Context where
  moderator : Moderator
  usage : Usage
  outbox : Outbox
  journal : Journal

namespace Context

/-- The state before the first event. -/
def fresh (settings : Settings) (mode : HostMode) : Context :=
  ⟨.fresh settings, .zero, .fresh mode, .empty⟩

/-- The counters of the conversation. -/
def tally (c : Context) : Tally :=
  c.outbox.tally

/-- The state after one more entry in the counters. -/
def count (c : Context) (e : Tally.Entry) : Context :=
  { c with outbox := c.outbox.count e }

/-- The state after one more record. -/
def report (c : Context) (r : Record) : Context :=
  { c with journal := c.journal.add r }

/-- Follows a phase change and reports it. -/
def applyPhase (c : Context) (e : PhaseChange) (now : Instant) : Context :=
  let moderator := c.moderator.follow e.old e.new now
  { c with moderator }.report
    (.ofPhaseChange ⟨e.old, e.new, moderator.floor.speaking, Floor.touches e.old e.new,
      e.createdAt⟩)

/-- Judges a transcript: the state after it, and the action if there is a decision. The decision
is reported and then dispatched. -/
def arbitrate (c : Context) (e : Utterance) (now : Instant) : Context × Option Action :=
  match c.moderator.judge e.transcript e.isFinal now with
  | none => (c.count .skipped, none)
  | some d =>
    let reported := c.report (.ofTurn ⟨e.transcript, d.cues, d.action⟩)
    ({ reported with outbox := reported.outbox.dispatch d.action }, some d.action)

/-- Collects a measurement. -/
def collect (c : Context) (m : Metrics) : Context :=
  { c with usage := c.usage.collect m }

end Context

/-- A conversation: its state, and what further handlers keep beside it. -/
structure Conversation (τ : Type) where
  context : Context
  notes : τ

/-- The final account of a conversation. -/
structure FinalReport where
  usage : Usage
  tally : Tally
  /-- How many events its queue refused for want of a place. -/
  refusals : UInt64
deriving DecidableEq, Repr

/-- A final account as a value. -/
def FinalReport.toJson (r : FinalReport) : Json :=
  .obj [("usage", r.usage.toJson), ("status", r.tally.toJson),
    ("full_rejections", .nat r.refusals)]

namespace Conversation

variable {τ : Type}

/-- A handler that changes the state alone. -/
def onContext (f : Context → Event → Instant → Context) : Handler (Conversation τ) :=
  fun c e now => { c with context := f c.context e now }

/-- What the standard handler of a kind does. -/
def standardHandler : EventKind → Context → Event → Instant → Context
  | .phaseChange, c, .phaseChange e, now => c.applyPhase e now
  | .utterance, c, .utterance e, now => (c.arbitrate e now).1
  | .metrics, c, .metrics m, _ => c.collect m
  | _, c, _, _ => c

/-- The table of the standard handlers. -/
def standardRoutes : Routes (Conversation τ) :=
  ((Routes.empty.on .phaseChange (onContext (standardHandler .phaseChange))).on
    .utterance (onContext (standardHandler .utterance))).on
    .metrics (onContext (standardHandler .metrics))

/-- A conversation before its first event. -/
def fresh (settings : Settings) (mode : HostMode) (notes : τ) : Conversation τ :=
  ⟨.fresh settings mode, notes⟩

/-- The conversation after an event: it is counted, then the handlers of its kind run. -/
def handle (routes : Routes (Conversation τ)) (c : Conversation τ) (e : Event) (now : Instant) :
    Conversation τ :=
  routes.dispatch { c with context := c.context.count .event } e now

/-- The conversation after a list of events. -/
def handleAll (routes : Routes (Conversation τ)) (c : Conversation τ)
    (es : List (Event × Instant)) : Conversation τ :=
  es.foldl (fun c e => c.handle routes e.1 e.2) c

/-- Runs the requests to the host as far as they go. -/
def settle (c : Conversation τ) : Conversation τ :=
  { c with context := { c.context with outbox := c.context.outbox.settle } }

/-- Lets so many more interruptions through the gate of the host. -/
def letPass (c : Conversation τ) (n : Nat) : Conversation τ :=
  { c with context := { c.context with outbox := c.context.outbox.letPass n } }

/-- Opens the gate of the host. -/
def openGate (c : Conversation τ) : Conversation τ :=
  { c with context := { c.context with outbox := c.context.outbox.openGate } }

/-- The final account, and the conversation after its usage has been reported. All requests to the
host are finished. -/
def conclude (c : Conversation τ) (refusals : UInt64) : FinalReport × Conversation τ :=
  (⟨c.context.usage, c.context.tally, refusals⟩,
    { c with context := c.context.report (.ofUsage c.context.usage) })

/-- Finishes all requests to the host and then concludes. -/
def finish (c : Conversation τ) (refusals : UInt64) : FinalReport × Conversation τ :=
  let done := { c with context := { c.context with outbox := c.context.outbox.finish } }
  done.conclude refusals

@[simp] theorem standardRoutes_handlersFor (k : EventKind) :
    (standardRoutes (τ := τ)).handlersFor k = [onContext (standardHandler k)] := by
  cases k <;> rfl

end Conversation

end TurnTaking
