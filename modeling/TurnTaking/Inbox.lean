import TurnTaking.Time.Duration
/-!
# The inbox

The bounded queue of a conversation. Anyone may put events in, and one reader takes them out in
order. An event that finds no place is refused and handed back, or its sender waits: a place that
becomes free goes to the sender who has waited longest, and is kept for it until it comes back. Both
counters are words and start again after the greatest one.

The main statements are `queue_send`, `queue_sendWaiting` and `queue_of_poll`, that what is accepted
is put at the end of the queue and what is not changes nothing in it, and `queue_of_receive`, that
what is taken out is the oldest event.
-/

namespace TurnTaking

open Time

/-- An event and the time at which it reached the conversation. -/
structure Arrival (ε : Type) where
  time : Instant
  event : ε
deriving DecidableEq, Repr

/-- A sender that waits for a place, and whether one is kept for it. -/
structure Waiter (ι ε : Type) where
  ticket : ι
  arrival : Arrival ε
  granted : Bool
deriving DecidableEq, Repr

/-- Why an event is not accepted. -/
inductive Refusal where
  | full
  | closed
deriving DecidableEq, Repr

/-- The text of a refusal. -/
def Refusal.message : Refusal → String
  | full => "session queue full"
  | closed => "session queue closed"

/-- What becomes of an event that is sent. -/
inductive Outcome where
  | queued
  | waiting
  | refused (r : Refusal)
deriving DecidableEq, Repr

/-- The queue of a conversation. -/
structure Inbox (ι ε : Type) where
  capacity : Nat
  /-- Places that are neither taken nor kept for a waiter. -/
  free : Nat
  queue : List (Arrival ε)
  /-- Those who wait, longest first. -/
  waiting : List (Waiter ι ε)
  /-- Whether the reader is gone. -/
  closed : Bool
  /-- How many events the reader has taken out. -/
  received : UInt64
  /-- How many events were refused for want of a place. -/
  refusals : UInt64
deriving DecidableEq, Repr

/-- Why no queue can be made. -/
inductive CapacityError where
  | tooLarge
deriving DecidableEq, Repr

namespace Inbox

/-- The capacity of a queue that asks for none. -/
def standardCapacity : Nat :=
  256

/-- The capacity that every queue has at least. -/
def leastCapacity : Nat :=
  8

/-- The capacity that a queue has at most. -/
def capacityLimit : Nat :=
  2305843009213693951

end Inbox

/-- The text of a refusal to make a queue. -/
def CapacityError.message : CapacityError → String
  | tooLarge =>
    "a semaphore may not have more than MAX_PERMITS permits (" ++
      String.ofList (Nat.toDigits 10 Inbox.capacityLimit) ++ ")"

namespace Inbox

variable {ι ε : Type} [DecidableEq ι]

/-- An empty queue with so many places. -/
def withPlaces (capacity : Nat) : Inbox ι ε :=
  ⟨capacity, capacity, [], [], false, 0, 0⟩

/-- An empty queue of the capacity asked for, or of the least one. -/
def ofCapacity (requested : Nat) : Except CapacityError (Inbox ι ε) :=
  if capacityLimit < requested then .error .tooLarge
  else .ok (withPlaces (max requested leastCapacity))

/-! ## Operations -/

/-- Keeps a place for the first of those who wait without one; nothing if there is none. -/
def grantFirst : List (Waiter ι ε) → Option (List (Waiter ι ε))
  | [] => none
  | w :: ws =>
    if w.granted then (grantFirst ws).map (w :: ·) else some ({ w with granted := true } :: ws)

/-- The queue with one more free place. -/
def release (q : Inbox ι ε) : Inbox ι ε :=
  match grantFirst q.waiting with
  | some ws => { q with waiting := ws }
  | none => { q with free := q.free + 1 }

/-- Sends an event without waiting. -/
def send (q : Inbox ι ε) (a : Arrival ε) : Inbox ι ε × Outcome :=
  if q.closed then (q, .refused .closed)
  else if q.free = 0 then ({ q with refusals := q.refusals + 1 }, .refused .full)
  else ({ q with free := q.free - 1, queue := q.queue ++ [a] }, .queued)

/-- Whether someone waits under a ticket. -/
def waits (q : Inbox ι ε) (ticket : ι) : Bool :=
  q.waiting.any (·.ticket == ticket)

/-- The first of those who wait under a ticket. -/
def waiter? (q : Inbox ι ε) (ticket : ι) : Option (Waiter ι ε) :=
  q.waiting.find? (·.ticket == ticket)

/-- Gives up the wait under a ticket; a place that was kept goes on. -/
def abandon (q : Inbox ι ε) (ticket : ι) : Inbox ι ε :=
  match q.waiter? ticket with
  | none => q
  | some w =>
    let rest := { q with waiting := q.waiting.eraseP (·.ticket == ticket) }
    if w.granted then rest.release else rest

/-- Sends an event and waits if there is no place. Whoever waited under the ticket before gives
up. -/
def sendWaiting (q : Inbox ι ε) (ticket : ι) (a : Arrival ε) : Inbox ι ε × Outcome :=
  if q.closed then (q, .refused .closed)
  else if q.free = 0 then
    let joined := { q with waiting := q.waiting ++ [⟨ticket, a, false⟩] }
    (if q.waits ticket then joined.abandon ticket else joined, .waiting)
  else ({ q with free := q.free - 1, queue := q.queue ++ [a] }, .queued)

/-- Sends an event and leaves if there is no place, without counting as refused. -/
def sendOrLeave (q : Inbox ι ε) (a : Arrival ε) : Inbox ι ε × Outcome :=
  if q.closed then (q, .refused .closed)
  else if q.free = 0 then (q, .waiting)
  else ({ q with free := q.free - 1, queue := q.queue ++ [a] }, .queued)

/-- Looks after the wait under a ticket: nothing if there is none, otherwise what has become of the
event, and the event. -/
def poll (q : Inbox ι ε) (ticket : ι) : Option (Inbox ι ε × Outcome × Arrival ε) :=
  (q.waiter? ticket).map fun w =>
    let rest := { q with waiting := q.waiting.eraseP (·.ticket == ticket) }
    if q.closed then (rest, .refused .closed, w.arrival)
    else if w.granted then ({ rest with queue := q.queue ++ [w.arrival] }, .queued, w.arrival)
    else (q, .waiting, w.arrival)

/-- Takes the oldest event out, if there is one. -/
def receive (q : Inbox ι ε) : Option (Arrival ε × Inbox ι ε) :=
  match q.queue with
  | [] => none
  | a :: rest => some (a, { q with queue := rest, received := q.received + 1 }.release)

/-- The queue after its reader has gone. -/
def close (q : Inbox ι ε) : Inbox ι ε :=
  { q with closed := true }

/-! ## What is in the queue -/

omit [DecidableEq ι] in
@[simp] theorem queue_release (q : Inbox ι ε) : q.release.queue = q.queue := by
  simp only [release]
  split <;> rfl

omit [DecidableEq ι] in
@[simp] theorem received_release (q : Inbox ι ε) : q.release.received = q.received := by
  simp only [release]
  split <;> rfl

@[simp] theorem queue_abandon (q : Inbox ι ε) (ticket : ι) :
    (q.abandon ticket).queue = q.queue := by
  simp only [abandon]
  split
  · rfl
  · split
    · exact queue_release _
    · rfl

omit [DecidableEq ι] in
theorem queue_send (q : Inbox ι ε) (a : Arrival ε) :
    (q.send a).1.queue = q.queue ++ if (q.send a).2 = .queued then [a] else [] := by
  simp only [send]
  split
  · simp
  · split <;> simp

theorem queue_sendWaiting (q : Inbox ι ε) (ticket : ι) (a : Arrival ε) :
    (q.sendWaiting ticket a).1.queue =
      q.queue ++ if (q.sendWaiting ticket a).2 = .queued then [a] else [] := by
  simp only [sendWaiting]
  split
  · simp
  · split
    · split <;> simp
    · simp

omit [DecidableEq ι] in
theorem queue_sendOrLeave (q : Inbox ι ε) (a : Arrival ε) :
    (q.sendOrLeave a).1.queue = q.queue ++ if (q.sendOrLeave a).2 = .queued then [a] else [] := by
  simp only [sendOrLeave]
  split
  · simp
  · split <;> simp

theorem queue_of_poll {q r : Inbox ι ε} {ticket : ι} {o : Outcome} {a : Arrival ε}
    (h : q.poll ticket = some (r, o, a)) :
    r.queue = q.queue ++ if o = .queued then [a] else [] := by
  simp only [poll, Option.map_eq_some_iff] at h
  obtain ⟨w, -, hw⟩ := h
  split at hw
  · cases hw
    simp
  · split at hw <;> cases hw <;> simp

omit [DecidableEq ι] in
theorem queue_of_receive {q r : Inbox ι ε} {a : Arrival ε} (h : q.receive = some (a, r)) :
    q.queue = a :: r.queue ∧ r.received = q.received + 1 := by
  simp only [receive] at h
  split at h
  · cases h
  · rename_i b rest heq
    cases h
    simp [heq]

end Inbox

end TurnTaking
