import TurnTaking.Proofs.Exchange.Effects
import TurnTaking.Proofs.Inbox.Bookings
import TurnTaking.Proofs.Inbox.Places
/-!
# What every step of an exchange keeps

A property of inboxes that every operation of the queue keeps (`Inbox.Invariant`) is kept by every
step of an exchange and by every run. It is so for the account of the places, for distinct tickets
and for the capacity.
-/

namespace TurnTaking

open Time

namespace Inbox

/-- A property that every operation of the queue keeps. -/
structure Invariant {ι ε : Type} [DecidableEq ι] (P : Inbox ι ε → Prop) : Prop where
  send : ∀ q a, P q → P (q.send a).1
  sendOrLeave : ∀ q a, P q → P (q.sendOrLeave a).1
  sendWaiting : ∀ q ticket a, P q → P (q.sendWaiting ticket a).1
  poll : ∀ q r ticket o a, q.poll ticket = some (r, o, a) → P q → P r
  abandon : ∀ q ticket, P q → P (q.abandon ticket)
  receive : ∀ q r a, q.receive = some (a, r) → P q → P r
  close : ∀ q, P q → P q.close

variable {ι ε : Type} [DecidableEq ι]

theorem sound_invariant : Invariant (Sound : Inbox ι ε → Prop) where
  send _ a h := h.send a
  sendOrLeave _ a h := h.sendOrLeave a
  sendWaiting _ ticket a h := h.sendWaiting ticket a
  poll _ _ _ _ _ hp h := h.poll hp
  abandon _ ticket h := h.abandon ticket
  receive _ _ _ hr h := h.receive hr
  close _ h := h.close

theorem distinct_invariant : Invariant (Distinct : Inbox ι ε → Prop) where
  send q a h := h.congr (bookings_send q a)
  sendOrLeave q a h := h.congr (bookings_sendOrLeave q a)
  sendWaiting _ ticket a h := h.sendWaiting ticket a
  poll _ _ _ _ _ hp h := h.poll hp
  abandon _ ticket h := h.abandon ticket
  receive _ _ _ hr h := h.congr (bookings_of_receive hr)
  close _ h := h

/-- No operation changes the capacity. -/
theorem capacity_invariant (n : Nat) : Invariant (fun q : Inbox ι ε => q.capacity = n) where
  send q a h := (send_frame q a).1.trans h
  sendOrLeave q a h := by
    rcases sendOrLeave_cases q a with ⟨-, heq⟩ | ⟨-, -, heq⟩ | ⟨-, -, heq⟩ <;> rw [heq] <;> exact h
  sendWaiting q ticket a h := (sendWaiting_frame q ticket a).1.trans h
  poll _ _ _ _ _ hp h := (poll_frame hp).1.trans h
  abandon q ticket h := (abandon_frame q ticket).1.trans h
  receive _ _ _ hr h := (receive_frame hr).1.trans h
  close _ h := h

omit [DecidableEq ι] in
/-- The queue that is made for a capacity. -/
theorem ofCapacity_of_le {requested : Nat} (h : requested ≤ capacityLimit) :
    (ofCapacity requested : Except CapacityError (Inbox ι ε)) =
      .ok (withPlaces (max requested leastCapacity)) := by
  rw [ofCapacity, if_neg (Nat.not_lt.2 h)]

end Inbox

namespace Exchange

variable {ε : Type}

/-! ## Filling the queue -/

/-- Events from a sequence, each sent at the same time. -/
def burst (time : Instant) (events : Nat → ε) (first count : Nat) : List (Arrival ε) :=
  (List.range' first count).map fun i => ⟨time, events i⟩

/-- A closed queue refuses the first event. -/
theorem fillFrom_of_closed {q : Inbox String ε} (hc : q.closed = true) (time : Instant)
    (events : Nat → ε) (n fuel : Nat) :
    fillFrom q time events n (fuel + 1) = (q, .filled n .closed (events n)) := by
  simp [fillFrom, Inbox.send, hc]

/-- An open queue takes as many events as it has free places and refuses the next one. -/
theorem fillFrom_of_open {q : Inbox String ε} (hc : q.closed = false) (time : Instant)
    (events : Nat → ε) (n : Nat) {fuel : Nat} (hfuel : q.free < fuel) :
    fillFrom q time events n fuel =
      ({ q with
          free := 0
          queue := q.queue ++ burst time events n q.free
          refusals := q.refusals + 1 },
        .filled (n + q.free) .full (events (n + q.free))) := by
  induction fuel generalizing q n with
  | zero => omega
  | succ fuel ih =>
    rw [fillFrom]
    rcases q.send_cases ⟨time, events n⟩ with ⟨hc', -⟩ | ⟨-, hf, heq⟩ | ⟨-, hf, heq⟩
    · rw [hc] at hc'
      cases hc'
    · simp [heq, hf, burst]
    · -- the event takes a place, and the rest goes on with one place and one step less
      obtain ⟨k, hk⟩ := Nat.exists_eq_succ_of_ne_zero hf
      have hfree : (q.accept ⟨time, events n⟩).free = k := by
        simp [Inbox.accept, hk]
      have hrest := ih (q := q.accept ⟨time, events n⟩) hc (n + 1) (by omega)
      have hburst : burst time events n (k + 1) =
          ⟨time, events n⟩ :: burst time events (n + 1) k := by
        simp [burst, List.range'_succ]
      have hlast : n + 1 + k = n + (k + 1) := by omega
      rw [heq]
      show fillFrom (q.accept ⟨time, events n⟩) time events (n + 1) fuel = _
      rw [hrest, hfree, hk, Nat.succ_eq_add_one, hburst, hlast]
      simp [Inbox.accept]

theorem fillFrom_invariant {P : Inbox String ε → Prop} (hP : Inbox.Invariant P) (time : Instant)
    (events : Nat → ε) (fuel : Nat) {q : Inbox String ε} (n : Nat) (h : P q) :
    P (fillFrom q time events n fuel).1 := by
  induction fuel generalizing q n with
  | zero => exact h
  | succ fuel ih =>
    have hsent := hP.send q ⟨time, events n⟩ h
    rw [fillFrom]
    split
    · rename_i r hr
      rw [hr] at hsent
      exact hsent
    · rename_i r o _ hr
      rw [hr] at hsent
      exact ih (n + 1) hsent

/-! ## Steps and runs -/

theorem Effect.invariant {P : Inbox String ε → Prop} (hP : Inbox.Invariant P) {x : Exchange ε}
    {s : Step ε} {q : Inbox String ε} {r : Reply ε} (he : Effect x s q r) (h : P x.inbox) :
    P q := by
  cases he with
  | aside => exact h
  | close => exact hP.close _ h
  | noSender => exact h
  | send => exact hP.send _ _ h
  | fill => exact fillFrom_invariant hP _ _ _ 0 h
  | sendOrLeave => exact hP.sendOrLeave _ _ h
  | sendWaiting => exact hP.sendWaiting _ _ _ h
  | poll hp => exact hP.poll _ _ _ _ _ hp h
  | nobodyWaits => exact h
  | abandon => exact hP.abandon _ _ h
  | receive hr => exact hP.receive _ _ _ hr h
  | unread => exact h

/-- What every operation of the queue keeps is kept by every step. -/
theorem inbox_step {P : Inbox String ε → Prop} (hP : Inbox.Invariant P) {x : Exchange ε}
    (h : P x.inbox) (s : Step ε) : P (x.step s).1.inbox :=
  (step_effect x s).invariant hP h

/-- What every operation of the queue keeps is kept by every run. -/
theorem inbox_run {P : Inbox String ε → Prop} (hP : Inbox.Invariant P) {x : Exchange ε}
    (h : P x.inbox) (ss : List (Step ε)) : P (x.run ss).1.inbox := by
  induction ss generalizing x with
  | nil => exact h
  | cons s ss ih => exact ih (inbox_step hP h s)

end Exchange

end TurnTaking
