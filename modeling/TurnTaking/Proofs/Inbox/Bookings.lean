import Mathlib.Data.List.Nodup
import TurnTaking.Proofs.Inbox.Operations
/-!
# Who waits for what

The bookings of a queue are the tickets of those who wait, each with the event that it stands for.
Here it is said what each operation does to them, and that no two senders that wait have the same
ticket (`Distinct`), so that a ticket stands for one event.
-/

namespace TurnTaking

namespace Inbox

variable {ι ε : Type}

/-- The tickets of those who wait, longest first, each with its event. -/
def bookings (q : Inbox ι ε) : List (ι × Arrival ε) :=
  q.waiting.map fun w => (w.ticket, w.arrival)

/-- No two of those who wait have the same ticket. -/
def Distinct (q : Inbox ι ε) : Prop :=
  (q.bookings.map (·.1)).Nodup

theorem mem_bookings {q : Inbox ι ε} {ticket : ι} {a : Arrival ε} :
    (ticket, a) ∈ q.bookings ↔ ∃ w ∈ q.waiting, w.ticket = ticket ∧ w.arrival = a := by
  simp [bookings]

/-- A place that is granted changes no booking. -/
@[simp] theorem bookings_release (q : Inbox ι ε) : q.release.bookings = q.bookings := by
  rcases release_cases q with ⟨-, heq⟩ | ⟨before, w, after, hsplit, -, -, heq⟩
  · rw [heq]
    rfl
  · rw [heq, bookings, bookings, hsplit]
    simp

@[simp] theorem bookings_send (q : Inbox ι ε) (a : Arrival ε) :
    (q.send a).1.bookings = q.bookings := by
  rcases send_cases q a with ⟨-, heq⟩ | ⟨-, -, heq⟩ | ⟨-, -, heq⟩ <;> rw [heq] <;> rfl

@[simp] theorem bookings_sendOrLeave (q : Inbox ι ε) (a : Arrival ε) :
    (q.sendOrLeave a).1.bookings = q.bookings := by
  rcases sendOrLeave_cases q a with ⟨-, heq⟩ | ⟨-, -, heq⟩ | ⟨-, -, heq⟩
  · rw [heq]
  · rw [heq]
  · rw [heq]
    rfl

theorem bookings_of_receive {q r : Inbox ι ε} {a : Arrival ε} (h : q.receive = some (a, r)) :
    r.bookings = q.bookings := by
  obtain ⟨rest, -, rfl⟩ := receive_cases h
  rw [bookings_release]
  rfl

section

variable [DecidableEq ι]

theorem bookings_remove {q : Inbox ι ε} {ticket : ι} {before after : List (Waiter ι ε)}
    {w : Waiter ι ε} (hsplit : q.waiting = before ++ w :: after)
    (hbefore : ∀ v ∈ before, v.ticket ≠ ticket) (hw : w.ticket = ticket) :
    (before ++ after).map (fun w => (w.ticket, w.arrival)) =
      q.bookings.eraseP (·.1 == ticket) := by
  rw [bookings, hsplit, List.eraseP_map, List.eraseP_append_right _ (by simpa using hbefore),
    List.eraseP_cons_of_pos (by simpa using hw)]

theorem bookings_eraseP_of_not_waits {q : Inbox ι ε} {ticket : ι} (h : q.waits ticket = false) :
    q.bookings.eraseP (·.1 == ticket) = q.bookings := by
  refine List.eraseP_of_forall_not ?_
  rintro ⟨t, a⟩ hmem
  obtain ⟨w, hw, rfl, -⟩ := mem_bookings.1 hmem
  simpa using waits_eq_false_iff.1 h w hw

theorem bookings_abandon (q : Inbox ι ε) (ticket : ι) :
    (q.abandon ticket).bookings = q.bookings.eraseP (·.1 == ticket) := by
  rcases abandon_cases q ticket with
    ⟨hnot, heq⟩ | ⟨before, w, after, hsplit, hbefore, hw, ⟨-, heq⟩ | ⟨-, heq⟩⟩
  · rw [heq, bookings_eraseP_of_not_waits hnot]
  · rw [heq, bookings_release, ← bookings_remove hsplit hbefore hw]
    rfl
  · rw [heq, ← bookings_remove hsplit hbefore hw]
    rfl

theorem abandon_of_bookings_eq_nil {q : Inbox ι ε} (h : q.bookings = []) (ticket : ι) :
    q.abandon ticket = q := by
  rcases abandon_cases q ticket with ⟨-, heq⟩ | ⟨before, w, after, hsplit, -⟩
  · exact heq
  · rw [bookings, hsplit] at h
    simp at h

/-- A sender that has to wait comes last, and nobody else waits under its ticket any more. -/
theorem bookings_sendWaiting (q : Inbox ι ε) (ticket : ι) (a : Arrival ε) :
    (q.sendWaiting ticket a).1.bookings =
      if (q.sendWaiting ticket a).2 = .waiting then
        q.bookings.eraseP (·.1 == ticket) ++ [(ticket, a)]
      else q.bookings := by
  rcases sendWaiting_cases q ticket a with
    ⟨-, heq⟩ | ⟨-, -, hnot, heq⟩ | ⟨-, -, hwaits, heq⟩ | ⟨-, -, heq⟩
  · rw [heq]
    rfl
  · rw [heq, bookings_eraseP_of_not_waits hnot]
    simp [bookings, join]
  · -- the one who waited under the ticket comes before the one who has just joined
    rw [heq]
    show ((q.join ticket a).abandon ticket).bookings = _
    obtain ⟨w, hw, rfl⟩ := waits_eq_true_iff.1 hwaits
    have hmem : (w.ticket, w.arrival) ∈ q.bookings := mem_bookings.2 ⟨w, hw, rfl, rfl⟩
    have hjoin : (q.join w.ticket a).bookings = q.bookings ++ [(w.ticket, a)] := by
      simp [bookings, join]
    rw [bookings_abandon, hjoin, List.eraseP_append_left (by simp) _ hmem]
    rfl
  · rw [heq]
    rfl

/-- Who comes back gets to know of its own event, and waits on only if told so. -/
theorem bookings_of_poll {q r : Inbox ι ε} {ticket : ι} {o : Outcome} {a : Arrival ε}
    (h : q.poll ticket = some (r, o, a)) :
    (ticket, a) ∈ q.bookings ∧
      r.bookings = if o = .waiting then q.bookings else q.bookings.eraseP (·.1 == ticket) := by
  obtain ⟨before, w, after, hsplit, hbefore, hw, rfl, hcases⟩ := poll_cases h
  have hmem : (ticket, w.arrival) ∈ q.bookings :=
    mem_bookings.2 ⟨w, by simp [hsplit], hw, rfl⟩
  refine ⟨hmem, ?_⟩
  rcases hcases with ⟨-, rfl, rfl⟩ | ⟨-, -, rfl, rfl⟩ | ⟨-, -, rfl, rfl⟩
  · rw [← bookings_remove hsplit hbefore hw]
    rfl
  · rw [← bookings_remove hsplit hbefore hw]
    rfl
  · rfl

/-! ## Tickets stay distinct -/

omit [DecidableEq ι] in
theorem distinct_withPlaces (n : Nat) : (withPlaces n : Inbox ι ε).Distinct := by
  simp [Distinct, bookings, withPlaces]

omit [DecidableEq ι] in
theorem Distinct.congr {q r : Inbox ι ε} (hq : q.Distinct) (h : r.bookings = q.bookings) :
    r.Distinct := by
  rw [Distinct, h]
  exact hq

omit [DecidableEq ι] in
theorem Distinct.eq_of_ticket_eq {q : Inbox ι ε} (hq : q.Distinct) {v w : Waiter ι ε}
    (hv : v ∈ q.waiting) (hw : w ∈ q.waiting) (h : v.ticket = w.ticket) : v = w := by
  have hnodup : (q.waiting.map (·.ticket)).Nodup := by
    have htickets := hq
    rw [Distinct, bookings, List.map_map] at htickets
    exact htickets
  exact List.inj_on_of_nodup_map hnodup hv hw h

theorem tickets_eraseP (q : Inbox ι ε) (ticket : ι) :
    (q.bookings.eraseP (·.1 == ticket)).map (·.1) = (q.bookings.map (·.1)).erase ticket := by
  rw [List.erase_eq_eraseP', List.eraseP_map]
  rfl

/-- Once a booking is taken off, nobody waits under its ticket. -/
theorem Distinct.ne_of_mem_eraseP {q : Inbox ι ε} (hq : q.Distinct) {ticket t : ι}
    {a : Arrival ε} (h : (t, a) ∈ q.bookings.eraseP (·.1 == ticket)) : t ≠ ticket := by
  rintro rfl
  have hmem : t ∈ (q.bookings.eraseP (·.1 == t)).map (·.1) := List.mem_map_of_mem h
  rw [tickets_eraseP] at hmem
  exact List.Nodup.not_mem_erase hq hmem

theorem Distinct.mem_eraseP_iff {q : Inbox ι ε} (hq : q.Distinct) {ticket t : ι}
    {a : Arrival ε} :
    (t, a) ∈ q.bookings.eraseP (·.1 == ticket) ↔ (t, a) ∈ q.bookings ∧ t ≠ ticket := by
  constructor
  · intro h
    exact ⟨List.mem_of_mem_eraseP h, hq.ne_of_mem_eraseP h⟩
  · rintro ⟨h, hne⟩
    exact (List.mem_eraseP_of_neg (by simpa using hne)).2 h

theorem Distinct.abandon {q : Inbox ι ε} (hq : q.Distinct) (ticket : ι) :
    (q.abandon ticket).Distinct := by
  rw [Distinct, bookings_abandon, tickets_eraseP]
  exact List.Nodup.erase ticket hq

theorem Distinct.sendWaiting {q : Inbox ι ε} (hq : q.Distinct) (ticket : ι) (a : Arrival ε) :
    (q.sendWaiting ticket a).1.Distinct := by
  rw [Distinct, bookings_sendWaiting]
  split
  · rw [List.map_append, tickets_eraseP, List.nodup_append]
    refine ⟨List.Nodup.erase ticket hq, by simp, ?_⟩
    intro t ht u hu
    have hu' : u = ticket := by simpa using hu
    rintro rfl
    rw [hu'] at ht
    exact List.Nodup.not_mem_erase hq ht
  · exact hq

theorem Distinct.poll {q r : Inbox ι ε} (hq : q.Distinct) {ticket : ι} {o : Outcome}
    {a : Arrival ε} (h : q.poll ticket = some (r, o, a)) : r.Distinct := by
  rw [Distinct, (bookings_of_poll h).2]
  split
  · exact hq
  · rw [tickets_eraseP]
    exact List.Nodup.erase ticket hq

end

end Inbox

end TurnTaking
