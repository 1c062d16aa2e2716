import TurnTaking.Inbox
/-!
# What each operation of the inbox can do

One statement for each operation of the queue, with all that it can come to. Later proofs split on
these statements and do not look into the operations any more.
-/

namespace TurnTaking

namespace Inbox

variable {ι ε : Type}

/-- The queue with one more event in a place that was free. -/
def accept (q : Inbox ι ε) (a : Arrival ε) : Inbox ι ε :=
  { q with free := q.free - 1, queue := q.queue ++ [a] }

/-- The queue with one more sender that waits. -/
def join (q : Inbox ι ε) (ticket : ι) (a : Arrival ε) : Inbox ι ε :=
  { q with waiting := q.waiting ++ [⟨ticket, a, false⟩] }

/-! ## Places that become free -/

theorem grantFirst_eq_none_iff {ws : List (Waiter ι ε)} :
    grantFirst ws = none ↔ ∀ w ∈ ws, w.granted = true := by
  induction ws with
  | nil => simp [grantFirst]
  | cons w ws ih =>
    rw [grantFirst]
    cases hw : w.granted with
    | true => simp [ih, hw]
    | false => simp [hw]

/-- A place goes to the first of those who wait without one, and to nobody else. -/
theorem grantFirst_eq_some {ws ws' : List (Waiter ι ε)} (h : grantFirst ws = some ws') :
    ∃ before w after, ws = before ++ w :: after ∧ (∀ v ∈ before, v.granted = true) ∧
      w.granted = false ∧ ws' = before ++ { w with granted := true } :: after := by
  induction ws generalizing ws' with
  | nil => simp [grantFirst] at h
  | cons w ws ih =>
    rw [grantFirst] at h
    cases hw : w.granted with
    | true =>
      -- one who has a place already is passed over
      simp only [hw, if_true, Option.map_eq_some_iff] at h
      obtain ⟨us, hus, rfl⟩ := h
      obtain ⟨before, v, after, rfl, hbefore, hv, rfl⟩ := ih hus
      refine ⟨w :: before, v, after, rfl, ?_, hv, rfl⟩
      intro u hu
      rcases List.mem_cons.1 hu with rfl | hu
      · exact hw
      · exact hbefore u hu
    | false =>
      simp only [hw, Bool.false_eq_true, if_false, Option.some.injEq] at h
      exact ⟨[], w, ws, rfl, by simp, hw, h.symm⟩

theorem release_cases (q : Inbox ι ε) :
    ((∀ w ∈ q.waiting, w.granted = true) ∧ q.release = { q with free := q.free + 1 }) ∨
      ∃ before w after, q.waiting = before ++ w :: after ∧ (∀ v ∈ before, v.granted = true) ∧
        w.granted = false ∧
        q.release = { q with waiting := before ++ { w with granted := true } :: after } := by
  rw [release]
  cases h : grantFirst q.waiting with
  | none => exact Or.inl ⟨grantFirst_eq_none_iff.1 h, rfl⟩
  | some ws =>
    obtain ⟨before, w, after, hws, hbefore, hw, rfl⟩ := grantFirst_eq_some h
    exact Or.inr ⟨before, w, after, hws, hbefore, hw, rfl⟩

@[simp] theorem refusals_release (q : Inbox ι ε) : q.release.refusals = q.refusals := by
  rcases release_cases q with ⟨-, heq⟩ | ⟨_, _, _, -, -, -, heq⟩ <;> rw [heq]

@[simp] theorem capacity_release (q : Inbox ι ε) : q.release.capacity = q.capacity := by
  rcases release_cases q with ⟨-, heq⟩ | ⟨_, _, _, -, -, -, heq⟩ <;> rw [heq]

@[simp] theorem closed_release (q : Inbox ι ε) : q.release.closed = q.closed := by
  rcases release_cases q with ⟨-, heq⟩ | ⟨_, _, _, -, -, -, heq⟩ <;> rw [heq]

/-! ## Sending -/

theorem send_cases (q : Inbox ι ε) (a : Arrival ε) :
    (q.closed = true ∧ q.send a = (q, .refused .closed)) ∨
      (q.closed = false ∧ q.free = 0 ∧
        q.send a = ({ q with refusals := q.refusals + 1 }, .refused .full)) ∨
      (q.closed = false ∧ q.free ≠ 0 ∧ q.send a = (q.accept a, .queued)) := by
  cases hc : q.closed with
  | true => simp [send, hc]
  | false =>
    by_cases hf : q.free = 0
    · simp [send, hc, hf]
    · simp [send, hc, hf, accept]

theorem sendOrLeave_cases (q : Inbox ι ε) (a : Arrival ε) :
    (q.closed = true ∧ q.sendOrLeave a = (q, .refused .closed)) ∨
      (q.closed = false ∧ q.free = 0 ∧ q.sendOrLeave a = (q, .waiting)) ∨
      (q.closed = false ∧ q.free ≠ 0 ∧ q.sendOrLeave a = (q.accept a, .queued)) := by
  cases hc : q.closed with
  | true => simp [sendOrLeave, hc]
  | false =>
    by_cases hf : q.free = 0
    · simp [sendOrLeave, hc, hf]
    · simp [sendOrLeave, hc, hf, accept]

/-- An event sent without waiting finds no place just if none is free. -/
theorem full_of_send {q : Inbox ι ε} {a : Arrival ε} (h : (q.send a).2 = .refused .full) :
    q.closed = false ∧ q.free = 0 := by
  rcases send_cases q a with ⟨-, heq⟩ | ⟨hc, hf, -⟩ | ⟨-, -, heq⟩
  · rw [heq] at h
    cases h
  · exact ⟨hc, hf⟩
  · rw [heq] at h
    cases h

theorem sendOrLeave_ne_full (q : Inbox ι ε) (a : Arrival ε) :
    (q.sendOrLeave a).2 ≠ .refused .full := by
  rcases sendOrLeave_cases q a with ⟨-, heq⟩ | ⟨-, -, heq⟩ | ⟨-, -, heq⟩ <;> simp [heq]

/-- Sending changes neither how many places there are nor whether the queue is open. -/
theorem send_frame (q : Inbox ι ε) (a : Arrival ε) :
    (q.send a).1.capacity = q.capacity ∧ (q.send a).1.closed = q.closed := by
  rcases send_cases q a with ⟨-, heq⟩ | ⟨-, -, heq⟩ | ⟨-, -, heq⟩ <;> simp [heq, accept]

section

variable [DecidableEq ι]

theorem sendWaiting_cases (q : Inbox ι ε) (ticket : ι) (a : Arrival ε) :
    (q.closed = true ∧ q.sendWaiting ticket a = (q, .refused .closed)) ∨
      (q.closed = false ∧ q.free = 0 ∧ q.waits ticket = false ∧
        q.sendWaiting ticket a = (q.join ticket a, .waiting)) ∨
      (q.closed = false ∧ q.free = 0 ∧ q.waits ticket = true ∧
        q.sendWaiting ticket a = ((q.join ticket a).abandon ticket, .waiting)) ∨
      (q.closed = false ∧ q.free ≠ 0 ∧ q.sendWaiting ticket a = (q.accept a, .queued)) := by
  cases hc : q.closed with
  | true => simp [sendWaiting, hc]
  | false =>
    by_cases hf : q.free = 0
    · cases hw : q.waits ticket with
      | true => simp [sendWaiting, hc, hf, hw, join]
      | false => simp [sendWaiting, hc, hf, hw, join]
    · simp [sendWaiting, hc, hf, accept]

theorem sendWaiting_ne_full (q : Inbox ι ε) (ticket : ι) (a : Arrival ε) :
    (q.sendWaiting ticket a).2 ≠ .refused .full := by
  rcases sendWaiting_cases q ticket a with
    ⟨-, heq⟩ | ⟨-, -, -, heq⟩ | ⟨-, -, -, heq⟩ | ⟨-, -, heq⟩ <;> simp [heq]

/-! ## Those who wait -/

theorem waits_eq_true_iff {q : Inbox ι ε} {ticket : ι} :
    q.waits ticket = true ↔ ∃ w ∈ q.waiting, w.ticket = ticket := by
  simp [waits]

theorem waits_eq_false_iff {q : Inbox ι ε} {ticket : ι} :
    q.waits ticket = false ↔ ∀ w ∈ q.waiting, w.ticket ≠ ticket := by
  simp [waits]

theorem waiter?_eq_none_iff {q : Inbox ι ε} {ticket : ι} :
    q.waiter? ticket = none ↔ q.waits ticket = false := by
  simp [waiter?, waits]

/-- Whoever is found under a ticket is the first under it, and is the one who is taken off. -/
theorem waiter?_eq_some {q : Inbox ι ε} {ticket : ι} {w : Waiter ι ε}
    (h : q.waiter? ticket = some w) :
    ∃ before after, q.waiting = before ++ w :: after ∧ (∀ v ∈ before, v.ticket ≠ ticket) ∧
      w.ticket = ticket ∧ q.waiting.eraseP (·.ticket == ticket) = before ++ after := by
  rw [waiter?, List.find?_eq_some_iff_append] at h
  obtain ⟨hw, before, after, heq, hbefore⟩ := h
  -- none of those before it has the ticket, so it is the one that is taken off
  have hnot : ∀ v ∈ before, v.ticket ≠ ticket := by
    intro v hv
    simpa using hbefore v hv
  refine ⟨before, after, heq, hnot, by simpa using hw, ?_⟩
  rw [heq, List.eraseP_append_right _ (by simpa using hnot),
    List.eraseP_cons_of_pos (by simpa using hw)]

theorem abandon_cases (q : Inbox ι ε) (ticket : ι) :
    (q.waits ticket = false ∧ q.abandon ticket = q) ∨
      ∃ before w after, q.waiting = before ++ w :: after ∧ (∀ v ∈ before, v.ticket ≠ ticket) ∧
        w.ticket = ticket ∧
        ((w.granted = true ∧ q.abandon ticket = { q with waiting := before ++ after }.release) ∨
          (w.granted = false ∧ q.abandon ticket = { q with waiting := before ++ after })) := by
  rw [abandon]
  cases h : q.waiter? ticket with
  | none => exact Or.inl ⟨waiter?_eq_none_iff.1 h, rfl⟩
  | some w =>
    obtain ⟨before, after, heq, hbefore, hw, herase⟩ := waiter?_eq_some h
    refine Or.inr ⟨before, w, after, heq, hbefore, hw, ?_⟩
    simp only [herase]
    cases w.granted with
    | true => exact Or.inl ⟨rfl, rfl⟩
    | false => exact Or.inr ⟨rfl, rfl⟩

/-- Giving up a wait changes who waits and which places are free, and nothing else. -/
theorem abandon_frame (q : Inbox ι ε) (ticket : ι) :
    (q.abandon ticket).capacity = q.capacity ∧ (q.abandon ticket).closed = q.closed ∧
      (q.abandon ticket).received = q.received ∧ (q.abandon ticket).refusals = q.refusals := by
  rcases abandon_cases q ticket with ⟨-, heq⟩ | ⟨_, _, _, -, -, -, ⟨-, heq⟩ | ⟨-, heq⟩⟩
  · simp [heq]
  · simp [heq]
  · simp [heq]

/-- Whoever would rather wait is not counted as refused. -/
theorem sendWaiting_frame (q : Inbox ι ε) (ticket : ι) (a : Arrival ε) :
    (q.sendWaiting ticket a).1.capacity = q.capacity ∧
      (q.sendWaiting ticket a).1.closed = q.closed ∧
      (q.sendWaiting ticket a).1.refusals = q.refusals := by
  rcases sendWaiting_cases q ticket a with
    ⟨-, heq⟩ | ⟨-, -, -, heq⟩ | ⟨-, -, -, heq⟩ | ⟨-, -, heq⟩
  · simp [heq]
  · simp [heq, join]
  · obtain ⟨hcapacity, hclosed, -, hrefusals⟩ := (q.join ticket a).abandon_frame ticket
    rw [heq]
    exact ⟨hcapacity, hclosed, hrefusals⟩
  · simp [heq, accept]

theorem poll_eq_none_iff {q : Inbox ι ε} {ticket : ι} :
    q.poll ticket = none ↔ q.waits ticket = false := by
  rw [poll, Option.map_eq_none_iff, waiter?_eq_none_iff]

theorem poll_cases {q r : Inbox ι ε} {ticket : ι} {o : Outcome} {a : Arrival ε}
    (h : q.poll ticket = some (r, o, a)) :
    ∃ before w after, q.waiting = before ++ w :: after ∧ (∀ v ∈ before, v.ticket ≠ ticket) ∧
      w.ticket = ticket ∧ a = w.arrival ∧
      ((q.closed = true ∧ o = .refused .closed ∧ r = { q with waiting := before ++ after }) ∨
        (q.closed = false ∧ w.granted = true ∧ o = .queued ∧
          r = { q with waiting := before ++ after, queue := q.queue ++ [w.arrival] }) ∨
        (q.closed = false ∧ w.granted = false ∧ o = .waiting ∧ r = q)) := by
  rw [poll, Option.map_eq_some_iff] at h
  obtain ⟨w, hw, heq⟩ := h
  obtain ⟨before, after, hsplit, hbefore, hticket, herase⟩ := waiter?_eq_some hw
  refine ⟨before, w, after, hsplit, hbefore, hticket, ?_⟩
  cases hc : q.closed with
  | true =>
    simp only [hc, if_true, Prod.mk.injEq] at heq
    obtain ⟨rfl, rfl, rfl⟩ := heq
    simp [herase]
  | false =>
    cases hg : w.granted with
    | true =>
      simp only [hc, hg, Bool.false_eq_true, if_false, if_true, Prod.mk.injEq] at heq
      obtain ⟨rfl, rfl, rfl⟩ := heq
      simp [herase]
    | false =>
      simp only [hc, hg, Bool.false_eq_true, if_false, Prod.mk.injEq] at heq
      obtain ⟨rfl, rfl, rfl⟩ := heq
      simp

theorem poll_frame {q r : Inbox ι ε} {ticket : ι} {o : Outcome} {a : Arrival ε}
    (h : q.poll ticket = some (r, o, a)) :
    r.capacity = q.capacity ∧ r.closed = q.closed ∧ r.refusals = q.refusals := by
  obtain ⟨_, _, _, -, -, -, -, hcases⟩ := poll_cases h
  rcases hcases with ⟨-, -, rfl⟩ | ⟨-, -, -, rfl⟩ | ⟨-, -, -, rfl⟩ <;> simp

theorem outcome_of_poll_ne_full {q r : Inbox ι ε} {ticket : ι} {o : Outcome} {a : Arrival ε}
    (h : q.poll ticket = some (r, o, a)) : o ≠ .refused .full := by
  obtain ⟨_, _, _, -, -, -, -, hcases⟩ := poll_cases h
  rcases hcases with ⟨-, rfl, -⟩ | ⟨-, -, rfl, -⟩ | ⟨-, -, rfl, -⟩ <;> decide

end

/-! ## Reading -/

theorem receive_eq_none_iff {q : Inbox ι ε} : q.receive = none ↔ q.queue = [] := by
  rw [receive]
  cases q.queue <;> simp

theorem receive_cases {q r : Inbox ι ε} {a : Arrival ε} (h : q.receive = some (a, r)) :
    ∃ rest, q.queue = a :: rest ∧
      r = { q with queue := rest, received := q.received + 1 }.release := by
  rw [receive] at h
  cases hq : q.queue with
  | nil => simp [hq] at h
  | cons b rest =>
    simp only [hq, Option.some.injEq, Prod.mk.injEq] at h
    obtain ⟨rfl, rfl⟩ := h
    exact ⟨rest, rfl, rfl⟩

theorem receive_frame {q r : Inbox ι ε} {a : Arrival ε} (h : q.receive = some (a, r)) :
    r.capacity = q.capacity ∧ r.closed = q.closed ∧ r.refusals = q.refusals := by
  obtain ⟨rest, -, rfl⟩ := receive_cases h
  simp

end Inbox

end TurnTaking
