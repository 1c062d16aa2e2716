import TurnTaking.Action
/-!
# The host

The host of a conversation owns the agent's voice and the user's turn. It is asked to interrupt the
one or to clear the other, keeps a list of the requests it took, and may refuse.
-/

namespace TurnTaking

/-- What a host is asked for. -/
inductive Request where
  | interrupt
  | clearTurn
deriving DecidableEq, Repr

/-- The action that a request carries out. -/
def Request.action : Request → Action
  | interrupt => .interrupt
  | clearTurn => .clearTurn

/-- The request that an action makes, if any. -/
def Action.request? : Action → Option Request
  | interrupt => some .interrupt
  | clearTurn => some .clearTurn
  | noOp => none

/-- Why a host refuses. -/
inductive HostError where
  | unavailable
  | rejected (reason : String)
deriving DecidableEq, Repr

/-- The text of a host's refusal. -/
def HostError.message : HostError → String
  | unavailable => "session unavailable"
  | rejected reason => "request rejected: " ++ reason

/-- How a host treats requests. -/
inductive HostMode where
  /-- It takes them and does as asked. -/
  | willing
  /-- It takes them and then rejects them. -/
  | rejecting
  /-- It is not there. -/
  | unavailable
  /-- As `willing`, but an interruption first has to pass a gate. -/
  | gated
deriving DecidableEq, Repr

namespace HostMode

/-- Whether a host takes note of requests. -/
def takes : HostMode → Bool
  | unavailable => false
  | _ => true

/-- A host's refusal of a request, if it refuses. -/
def refusal? (m : HostMode) (r : Request) : Option HostError :=
  match m with
  | rejecting => some (.rejected r.action.label)
  | unavailable => some .unavailable
  | willing => none
  | gated => none

/-- Whether a request has to pass the gate. -/
def gates (m : HostMode) (r : Request) : Bool :=
  m == gated && r == .interrupt

end HostMode

/-- A host, and the requests it has taken, oldest first. -/
structure Host where
  mode : HostMode
  calls : List Request
deriving DecidableEq, Repr

namespace Host

/-- A host that has taken no request. -/
def fresh (mode : HostMode) : Host :=
  ⟨mode, []⟩

/-- The host after a request, and its refusal. -/
def call (h : Host) (r : Request) : Host × Option HostError :=
  (if h.mode.takes then { h with calls := h.calls ++ [r] } else h, h.mode.refusal? r)

/-- How often a host has taken the request of an action. -/
def count (h : Host) (a : Action) : Nat :=
  (h.calls.filter (·.action == a)).length

end Host

end TurnTaking
