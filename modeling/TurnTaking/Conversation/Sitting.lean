import TurnTaking.Conversation
import TurnTaking.Inbox
/-!
# A sitting

A conversation that reads its events from its inbox. The conversation and its errands run
whenever the sender waits: then everything queued is handled, with the time of arrival as the
present. The sitting is over once the inbox has ended, or once it has been cancelled and all
requests to the host are finished.
-/

namespace TurnTaking

open Time

/-- A conversation at its inbox. -/
structure Sitting where
  inbox : Inbox Unit Event
  conversation : Conversation Unit
  routes : Routes (Conversation Unit)
  /-- How many events the queue had refused when the conversation stopped reading. -/
  stopped : Option UInt64
  /-- The final account once the sitting is over. -/
  outcome : Option FinalReport

namespace Sitting

/-- A sitting before its first event. -/
def fresh (inbox : Inbox Unit Event) (settings : Settings) (mode : HostMode) : Sitting :=
  ⟨inbox, .fresh settings mode (), Conversation.standardRoutes, none, none⟩

/-- Handles the events of the queue; `fuel` bounds their number. -/
def readQueue (s : Sitting) : Nat → Sitting
  | 0 => s
  | fuel + 1 =>
    match s.inbox.receive with
    | none => s
    | some (a, inbox) =>
      let conversation := s.conversation.handle s.routes a.event a.time
      { s with inbox, conversation }.readQueue fuel

/-- Ends a sitting that has stopped reading, if no request to the host is left. -/
def closeIfDone (s : Sitting) : Sitting :=
  match s.stopped, s.outcome with
  | some refusals, none =>
    if s.conversation.context.outbox.inFlight = 0 then
      let (report, conversation) := s.conversation.conclude refusals
      { s with conversation, outcome := some report, inbox := s.inbox.close }
    else s
  | _, _ => s

/-- Lets the conversation and the errands run until all of them wait. -/
def settle (s : Sitting) : Sitting :=
  let read := if s.stopped.isNone then s.readQueue s.inbox.queue.length else s
  { read with conversation := read.conversation.settle }.closeIfDone

/-- Stops the reading. -/
def stop (s : Sitting) : Sitting :=
  if s.stopped.isNone then { s with stopped := some s.inbox.refusals } else s

/-- Cancels the sitting when everything queued has been handled. -/
def cancel (s : Sitting) : Sitting :=
  s.settle.stop.settle

/-- Lets so many more interruptions through the gate of the host, when everything queued has been
handled and all requests wait or are finished. -/
def release (s : Sitting) (n : Nat) : Sitting :=
  let settled := s.settle
  { settled with conversation := settled.conversation.letPass n }.settle

/-- Sends an event without waiting. -/
def send (s : Sitting) (a : Arrival Event) : Sitting × Outcome :=
  let (inbox, outcome) := s.inbox.send a
  ({ s with inbox }, outcome)

/-- Sends an event and waits for a place if there is none. The conversation runs meanwhile; if that
makes no place the sender gives up. -/
def sendWaiting (s : Sitting) (a : Arrival Event) : Sitting × Outcome :=
  match s.inbox.sendWaiting () a with
  | (inbox, .waiting) =>
    let ran := { s with inbox }.settle
    match ran.inbox.poll () with
    | some (inbox, outcome, _) => ({ ran with inbox := inbox.abandon () }, outcome)
    | none => (ran, .waiting)
  | (inbox, outcome) => ({ s with inbox }, outcome)

/-- Opens the gate of the host and lets the sender go: the sitting is then over. -/
def conclude (s : Sitting) : Sitting :=
  { s with conversation := s.conversation.openGate }.settle.stop.settle

end Sitting

end TurnTaking
