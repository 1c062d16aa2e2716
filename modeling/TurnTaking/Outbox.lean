import TurnTaking.Host
import TurnTaking.Tally
/-!
# The outbox

Actions are counted at once, and their requests to the host are errands that run later, each on
its own, so that a slow host holds nothing up. Errands start in the order in which they were made.
An interruption may have to wait at a gate; those who wait are let through first come, first
served.
-/

namespace TurnTaking

/-- A request on its way to the host, and whether it may pass the gate. -/
structure Errand where
  request : Request
  pass : Bool
deriving DecidableEq, Repr

/-- The host, the errands on their way to it, and the counters. -/
structure Outbox where
  host : Host
  tally : Tally
  /-- Errands that can run, next one first. -/
  ready : List Errand
  /-- How many interruptions wait at the gate. -/
  held : Nat
  /-- How many more the gate lets through. -/
  permits : Nat
  /-- Whether the gate stands open for good. -/
  gateOpen : Bool
deriving DecidableEq, Repr

namespace Outbox

/-- An outbox without errands. -/
def fresh (mode : HostMode) : Outbox :=
  ⟨.fresh mode, .zero, [], 0, 0, false⟩

/-- The outbox after one more entry in its counters. -/
def count (o : Outbox) (e : Tally.Entry) : Outbox :=
  { o with tally := o.tally.count e }

/-- The outbox after an action. -/
def dispatch (o : Outbox) (a : Action) : Outbox :=
  let counted := o.count (.action a)
  match a.request? with
  | some r => { counted with ready := counted.ready ++ [⟨r, false⟩] }
  | none => counted

/-- How many errands are not finished. -/
def inFlight (o : Outbox) : Nat :=
  o.ready.length + o.held

/-- Delivers a request to the host; a refusal is counted. -/
def deliver (o : Outbox) (r : Request) : Outbox :=
  let (host, refusal) := o.host.call r
  let told := { o with host }
  if refusal.isSome then told.count .failure else told

/-- Runs an errand as far as it goes: to the gate or to its end. -/
def proceed (o : Outbox) (e : Errand) : Outbox :=
  if o.host.mode.gates e.request && !e.pass && !o.gateOpen then
    if o.permits = 0 then { o with held := o.held + 1 }
    else { o with permits := o.permits - 1 }.deliver e.request
  else o.deliver e.request

/-- Runs every errand as far as it goes. -/
def settle (o : Outbox) : Outbox :=
  o.ready.foldl proceed { o with ready := [] }

/-- Lets so many more interruptions through the gate. -/
def letPass (o : Outbox) (n : Nat) : Outbox :=
  let through := min n o.held
  { o with
    ready := o.ready ++ List.replicate through ⟨.interrupt, true⟩
    held := o.held - through
    permits := o.permits + (n - through) }

/-- Lets so many more interruptions through the gate and runs every errand as far as it goes. -/
def release (o : Outbox) (n : Nat) : Outbox :=
  (o.letPass n).settle

/-- Opens the gate for good. -/
def openGate (o : Outbox) : Outbox :=
  { o.letPass o.held with gateOpen := true }

/-- Opens the gate and finishes every errand. -/
def finish (o : Outbox) : Outbox :=
  o.openGate.settle

end Outbox

end TurnTaking
