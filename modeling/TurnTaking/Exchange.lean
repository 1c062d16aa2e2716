import TurnTaking.Inbox
/-!
# The exchange

An inbox together with those who hold on to it: senders with names, a hub that hands out senders
and keeps the reader until it is taken, and the reader. The queue ends once it is empty and nobody
is left who could send; it is closed once the reader is gone.

Everything that can be done to an exchange is a `Step` with a `Reply`.
-/

namespace TurnTaking

open Time

/-- Where the reader of an exchange is. -/
inductive ReaderPlace where
  /-- With the hub. -/
  | untaken
  | taken
  | gone
deriving DecidableEq, Repr

/-- An inbox and those who hold on to it. -/
structure Exchange (ε : Type) where
  inbox : Inbox String ε
  senders : List String
  hub : Bool
  reader : ReaderPlace
deriving DecidableEq, Repr

namespace Exchange

variable {ε : Type}

/-- What can be done to an exchange. -/
inductive Step (ε : Type) where
  /-- The hub hands out a sender. -/
  | enlist (name : String)
  /-- A sender is doubled. -/
  | double (source name : String)
  | takeReader
  | dropSender (name : String)
  | dropHub
  | dropReader
  | send (name : String) (a : Arrival ε)
  /-- Sends events from a sequence until one is refused. -/
  | fill (name : String) (time : Instant) (events : Nat → ε)
  /-- Sends an event and waits for a place; without a ticket the sender leaves if there is none. -/
  | sendWaiting (name : String) (ticket : Option String) (a : Arrival ε)
  | poll (ticket : String)
  | abandon (ticket : String)
  | receive
  /-- Looks at the counters, as a sender and as the reader. -/
  | counts (name : String)

/-- What comes of a step. -/
inductive Reply (ε : Type) where
  | done
  | noHub
  | noSender
  | noReader
  | nobodyWaits
  /-- Whether the reader was there to be taken. -/
  | taken (was : Bool)
  /-- Whether there was something to drop. -/
  | dropped (was : Bool)
  | waiting
  | refused (r : Refusal) (event : ε)
  /-- How many events were sent before one was refused. -/
  | filled (sent : Nat) (r : Refusal) (event : ε)
  | delivered (place : UInt64) (a : Arrival ε)
  | ended
  | counted (asSender asReader received : Option UInt64)

/-- An exchange with a hub and nobody else. -/
def withHub (inbox : Inbox String ε) : Exchange ε :=
  ⟨inbox, [], true, .untaken⟩

/-- The name of the sender of an exchange without a hub. -/
def mainSender : String :=
  "main"

/-- An exchange with one sender and its reader. -/
def bare (inbox : Inbox String ε) : Exchange ε :=
  ⟨inbox, [mainSender], false, .taken⟩

/-- Adds a name to those of the senders. -/
def addSender (x : Exchange ε) (name : String) : Exchange ε :=
  { x with senders := name :: x.senders.erase name }

/-- Whether nobody is left who could send. -/
def deserted (x : Exchange ε) : Bool :=
  x.senders.isEmpty && !x.hub && x.inbox.waiting.isEmpty

/-- The answer to whoever sent an event. -/
def replyTo (event : ε) : Outcome → Reply ε
  | .queued => .done
  | .waiting => .waiting
  | .refused r => .refused r event

/-- Sends events from a sequence, from the `n`-th on, until one is refused. -/
def fillFrom (inbox : Inbox String ε) (time : Instant) (events : Nat → ε) (n : Nat) :
    Nat → Inbox String ε × Reply ε
  | 0 => (inbox, .filled n .full (events n))
  | fuel + 1 =>
    match inbox.send ⟨time, events n⟩ with
    | (q, .refused r) => (q, .filled n r (events n))
    | (q, _) => fillFrom q time events (n + 1) fuel

/-- The exchange after a step, and what came of it. -/
def step (x : Exchange ε) : Step ε → Exchange ε × Reply ε
  | .enlist name => if x.hub then (x.addSender name, .done) else (x, .noHub)
  | .double source name =>
    if source ∈ x.senders then (x.addSender name, .done) else (x, .noSender)
  | .takeReader =>
    if x.hub && x.reader = .untaken then ({ x with reader := .taken }, .taken true)
    else (x, .taken false)
  | .dropSender name =>
    ({ x with senders := x.senders.erase name }, .dropped (decide (name ∈ x.senders)))
  | .dropHub =>
    if x.hub then
      if x.reader = .untaken then
        ({ x with hub := false, reader := .gone, inbox := x.inbox.close }, .dropped true)
      else ({ x with hub := false }, .dropped true)
    else (x, .dropped false)
  | .dropReader =>
    if x.reader = .taken then
      ({ x with reader := .gone, inbox := x.inbox.close }, .dropped true)
    else (x, .dropped false)
  | .send name a =>
    if name ∈ x.senders then
      let (q, outcome) := x.inbox.send a
      ({ x with inbox := q }, replyTo a.event outcome)
    else (x, .noSender)
  | .fill name time events =>
    if name ∈ x.senders then
      let (q, reply) := fillFrom x.inbox time events 0 (x.inbox.free + 1)
      ({ x with inbox := q }, reply)
    else (x, .noSender)
  | .sendWaiting name ticket a =>
    if name ∈ x.senders then
      let (q, outcome) := match ticket with
        | some ticket => x.inbox.sendWaiting ticket a
        | none => x.inbox.sendOrLeave a
      ({ x with inbox := q }, replyTo a.event outcome)
    else (x, .noSender)
  | .poll ticket =>
    match x.inbox.poll ticket with
    | some (q, outcome, a) => ({ x with inbox := q }, replyTo a.event outcome)
    | none => (x, .nobodyWaits)
  | .abandon ticket =>
    ({ x with inbox := x.inbox.abandon ticket }, .dropped (x.inbox.waits ticket))
  | .receive =>
    if x.reader = .taken then
      match x.inbox.receive with
      | some (a, q) => ({ x with inbox := q }, .delivered x.inbox.received a)
      | none => (x, if x.deserted then .ended else .waiting)
    else (x, .noReader)
  | .counts name =>
    let asReader := if x.reader = .taken then some x.inbox.refusals else none
    let received := if x.reader = .taken then some x.inbox.received else none
    (x, .counted (if name ∈ x.senders then some x.inbox.refusals else none) asReader received)

/-- The exchange after a list of steps, and what came of each. -/
def run (x : Exchange ε) : List (Step ε) → Exchange ε × List (Reply ε)
  | [] => (x, [])
  | s :: ss =>
    let (y, r) := x.step s
    let (z, rs) := y.run ss
    (z, r :: rs)

end Exchange

end TurnTaking
