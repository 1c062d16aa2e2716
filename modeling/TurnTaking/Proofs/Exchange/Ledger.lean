import TurnTaking.Proofs.Exchange.Invariants
/-!
# The ledger of an exchange

Whoever watches an exchange sees steps and replies. The ledger is what they tell of the events: which
were accepted, in which order, which had to wait, what the reader was given, and how many were
turned away. It is read off the steps and replies alone. Here it is shown that the ledger and the
queue agree: what was delivered and what is still queued are together what was accepted, in the same
order and each once; nothing else is ever delivered, counted or refused. The places and the numbers
that the queue tells are words, and below the greatest word they are the numbers themselves.

The main statement is `ledger_run`, for every capacity and every sequence of steps.
-/

namespace TurnTaking

open Time

namespace Exchange

variable {ε : Type}

/-- What the replies of an exchange tell of its events. -/
structure Ledger (ε : Type) where
  /-- The events that were accepted, in the order in which their senders were told. -/
  accepted : List (Arrival ε)
  /-- The events that had to wait, each under its ticket, latest first. -/
  delayed : List (String × Arrival ε)
  /-- What the reader was given, with the place that it was told. -/
  delivered : List (UInt64 × Arrival ε)
  /-- How many events that were sent without waiting were refused for want of a place. -/
  turnedAway : Nat

namespace Ledger

/-- The ledger before the first step. -/
def empty : Ledger ε :=
  ⟨[], [], [], 0⟩

/-- The ledger with more events that were accepted. -/
def accept (l : Ledger ε) (as : List (Arrival ε)) : Ledger ε :=
  { l with accepted := l.accepted ++ as }

/-- The ledger with one more event turned away, if it was for want of a place. -/
def turnAway (l : Ledger ε) : Refusal → Ledger ε
  | .full => { l with turnedAway := l.turnedAway + 1 }
  | .closed => l

/-- The ledger after a step and its reply. -/
def enter (l : Ledger ε) : Step ε → Reply ε → Ledger ε
  | .send _ a, .done => l.accept [a]
  | .send _ _, .refused r _ => l.turnAway r
  | .fill _ time events, .filled sent r _ => (l.accept (burst time events 0 sent)).turnAway r
  | .sendWaiting _ _ a, .done => l.accept [a]
  | .sendWaiting _ (some ticket) a, .waiting => { l with delayed := (ticket, a) :: l.delayed }
  | .poll ticket, .done => l.accept (l.delayed.lookup ticket).toList
  | .receive, .delivered place a => { l with delivered := l.delivered ++ [(place, a)] }
  | _, _ => l

/-- The ledger of some steps and their replies. -/
def enterAll (l : Ledger ε) (entries : List (Step ε × Reply ε)) : Ledger ε :=
  entries.foldl (fun l e => l.enter e.1 e.2) l

/-- The event that a step hands in: its own, or the one that waits under its ticket. -/
def handedIn (l : Ledger ε) : Step ε → Option ε
  | .send _ a => some a.event
  | .sendWaiting _ _ a => some a.event
  | .poll ticket => (l.delayed.lookup ticket).map (·.event)
  | _ => none

/-! ## The ledger and the queue agree -/

/-- The ledger tells what is in the queue, what its counters show, and who waits for what. -/
structure Agrees (l : Ledger ε) (q : Inbox String ε) : Prop where
  order : l.delivered.map (·.2) ++ q.queue = l.accepted
  numbered : l.delivered.map (·.1) = (List.range l.delivered.length).map UInt64.ofNat
  received : q.received = .ofNat l.delivered.length
  refusals : q.refusals = .ofNat l.turnedAway
  delayed : ∀ ticket a, (ticket, a) ∈ q.bookings → l.delayed.lookup ticket = some a

theorem agrees_withPlaces (n : Nat) : (empty : Ledger ε).Agrees (.withPlaces n) where
  order := rfl
  numbered := rfl
  received := rfl
  refusals := rfl
  delayed ticket a h := by simp [Inbox.bookings, Inbox.withPlaces] at h

/-- As long as there is a word for each of them, the places are the numbers from zero on. -/
theorem Agrees.numbered_toNat {l : Ledger ε} {q : Inbox String ε} (h : l.Agrees q)
    (hsize : l.delivered.length ≤ UInt64.size) :
    l.delivered.map (·.1.toNat) = List.range l.delivered.length := by
  have hword : ∀ n ∈ List.range l.delivered.length, (UInt64.ofNat n).toNat = n := by
    intro n hn
    exact UInt64.toNat_ofNat_of_lt' (Nat.lt_of_lt_of_le (List.mem_range.1 hn) hsize)
  calc l.delivered.map (·.1.toNat) = (l.delivered.map (·.1)).map UInt64.toNat := by
        rw [List.map_map]
        rfl
    _ = (List.range l.delivered.length).map (fun n => (UInt64.ofNat n).toNat) := by
        rw [h.numbered, List.map_map]
        rfl
    _ = List.range l.delivered.length := by
        rw [List.map_congr_left hword, List.map_id']

/-- A queue with the same events, counters and bookings agrees with the same ledger. -/
theorem Agrees.congr {l : Ledger ε} {q r : Inbox String ε} (h : l.Agrees q)
    (hqueue : r.queue = q.queue) (hreceived : r.received = q.received)
    (hrefusals : r.refusals = q.refusals) (hbookings : ∀ b ∈ r.bookings, b ∈ q.bookings) :
    l.Agrees r := by
  refine ⟨?_, h.numbered, ?_, ?_, ?_⟩
  · rw [hqueue]
    exact h.order
  · rw [hreceived]
    exact h.received
  · rw [hrefusals]
    exact h.refusals
  · intro ticket a hmem
    exact h.delayed ticket a (hbookings _ hmem)

/-- More events at the end of the queue, and the same events at the end of the ledger. -/
theorem Agrees.append {l : Ledger ε} {q r : Inbox String ε} (h : l.Agrees q)
    {as : List (Arrival ε)} (hqueue : r.queue = q.queue ++ as)
    (hreceived : r.received = q.received) (hrefusals : r.refusals = q.refusals)
    (hbookings : ∀ b ∈ r.bookings, b ∈ q.bookings) : (l.accept as).Agrees r := by
  refine ⟨?_, h.numbered, ?_, ?_, ?_⟩
  · show l.delivered.map (·.2) ++ r.queue = l.accepted ++ as
    rw [hqueue, ← h.order, List.append_assoc]
  · rw [hreceived]
    exact h.received
  · rw [hrefusals]
    exact h.refusals
  · intro ticket a hmem
    exact h.delayed ticket a (hbookings _ hmem)

theorem Agrees.refuse {l : Ledger ε} {q : Inbox String ε} (h : l.Agrees q) :
    (l.turnAway .full).Agrees { q with refusals := q.refusals + 1 } where
  order := h.order
  numbered := h.numbered
  received := h.received
  refusals := by
    show q.refusals + 1 = .ofNat (l.turnedAway + 1)
    rw [h.refusals, UInt64.ofNat_add]
    rfl
  delayed := h.delayed

theorem Agrees.send {l : Ledger ε} {q : Inbox String ε} (h : l.Agrees q) (name : String)
    (a : Arrival ε) :
    (l.enter (.send name a) (replyTo a.event (q.send a).2)).Agrees (q.send a).1 := by
  rcases q.send_cases a with ⟨-, heq⟩ | ⟨-, -, heq⟩ | ⟨-, -, heq⟩
  · rw [heq]
    exact h
  · rw [heq]
    exact h.refuse
  · rw [heq]
    exact h.append rfl rfl rfl fun _ hb => hb

theorem Agrees.sendOrLeave {l : Ledger ε} {q : Inbox String ε} (h : l.Agrees q) (name : String)
    (a : Arrival ε) :
    (l.enter (.sendWaiting name none a) (replyTo a.event (q.sendOrLeave a).2)).Agrees
      (q.sendOrLeave a).1 := by
  rcases q.sendOrLeave_cases a with ⟨-, heq⟩ | ⟨-, -, heq⟩ | ⟨-, -, heq⟩
  · rw [heq]
    exact h
  · rw [heq]
    exact h
  · rw [heq]
    exact h.append rfl rfl rfl fun _ hb => hb

theorem Agrees.fill {l : Ledger ε} {q : Inbox String ε} (h : l.Agrees q) (name : String)
    (time : Instant) (events : Nat → ε) :
    (l.enter (.fill name time events) (fillFrom q time events 0 (q.free + 1)).2).Agrees
      (fillFrom q time events 0 (q.free + 1)).1 := by
  cases hc : q.closed with
  | true =>
    rw [fillFrom_of_closed hc]
    exact h.append (by simp [burst]) rfl rfl fun _ hb => hb
  | false =>
    rw [fillFrom_of_open hc time events 0 (Nat.lt_succ_self _), Nat.zero_add]
    have hfilled : (l.accept (burst time events 0 q.free)).Agrees
        { q with free := 0, queue := q.queue ++ burst time events 0 q.free } :=
      h.append rfl rfl rfl fun _ hb => hb
    exact hfilled.refuse

/-- Whoever has to wait now stands for the event that it has just handed in. -/
theorem Agrees.delay {l : Ledger ε} {q r : Inbox String ε} (h : l.Agrees q) (hq : q.Distinct)
    {ticket : String} {a : Arrival ε} (hqueue : r.queue = q.queue)
    (hreceived : r.received = q.received) (hrefusals : r.refusals = q.refusals)
    (hbookings : r.bookings = q.bookings.eraseP (·.1 == ticket) ++ [(ticket, a)]) :
    Agrees { l with delayed := (ticket, a) :: l.delayed } r := by
  refine ⟨?_, h.numbered, ?_, ?_, ?_⟩
  · rw [hqueue]
    exact h.order
  · rw [hreceived]
    exact h.received
  · rw [hrefusals]
    exact h.refusals
  · intro t b hmem
    rw [hbookings, List.mem_append] at hmem
    rcases hmem with hmem | hmem
    · -- the tickets are distinct, so the new entry hides none that still stands for an event
      have hne : t ≠ ticket := hq.ne_of_mem_eraseP hmem
      rw [List.lookup_cons, beq_false_of_ne hne]
      exact h.delayed t b (List.mem_of_mem_eraseP hmem)
    · simp only [List.mem_singleton, Prod.mk.injEq] at hmem
      obtain ⟨rfl, rfl⟩ := hmem
      exact List.lookup_cons_self

theorem Agrees.sendWaiting {l : Ledger ε} {q : Inbox String ε} (h : l.Agrees q) (hq : q.Distinct)
    (name ticket : String) (a : Arrival ε) :
    (l.enter (.sendWaiting name (some ticket) a) (replyTo a.event (q.sendWaiting ticket a).2)).Agrees
      (q.sendWaiting ticket a).1 := by
  have hbookings := q.bookings_sendWaiting ticket a
  rcases q.sendWaiting_cases ticket a with
    ⟨-, heq⟩ | ⟨-, -, -, heq⟩ | ⟨-, -, -, heq⟩ | ⟨-, -, heq⟩
  · rw [heq]
    exact h
  · rw [heq, if_pos rfl] at hbookings
    rw [heq]
    exact h.delay hq rfl rfl rfl hbookings
  · rw [heq, if_pos rfl] at hbookings
    rw [heq]
    obtain ⟨-, -, hreceived, hrefusals⟩ := (q.join ticket a).abandon_frame ticket
    exact h.delay hq (Inbox.queue_abandon _ _) hreceived hrefusals hbookings
  · rw [heq]
    exact h.append rfl rfl rfl fun _ hb => hb

theorem Agrees.poll {l : Ledger ε} {q r : Inbox String ε} (h : l.Agrees q) {ticket : String}
    {o : Outcome} {a : Arrival ε} (hp : q.poll ticket = some (r, o, a)) :
    (l.enter (.poll ticket) (replyTo a.event o)).Agrees r := by
  obtain ⟨hmem, hbookings⟩ := Inbox.bookings_of_poll hp
  have hsub : ∀ b ∈ r.bookings, b ∈ q.bookings := by
    intro b hb
    rw [hbookings] at hb
    split at hb
    · exact hb
    · exact List.mem_of_mem_eraseP hb
  obtain ⟨_, w, _, -, -, -, rfl, hcases⟩ := Inbox.poll_cases hp
  rcases hcases with ⟨-, rfl, rfl⟩ | ⟨-, -, rfl, rfl⟩ | ⟨-, -, rfl, rfl⟩
  · exact h.congr rfl rfl rfl hsub
  · -- what the ledger remembers under the ticket is the event that is now accepted
    have hlookup := h.delayed ticket w.arrival hmem
    show (l.accept (l.delayed.lookup ticket).toList).Agrees _
    rw [hlookup]
    exact h.append rfl rfl rfl hsub
  · exact h

theorem Agrees.abandon {l : Ledger ε} {q : Inbox String ε} (h : l.Agrees q) (ticket : String) :
    l.Agrees (q.abandon ticket) := by
  obtain ⟨-, -, hreceived, hrefusals⟩ := q.abandon_frame ticket
  refine h.congr (Inbox.queue_abandon q ticket) hreceived hrefusals ?_
  intro b hb
  rw [Inbox.bookings_abandon] at hb
  exact List.mem_of_mem_eraseP hb

theorem Agrees.receive {l : Ledger ε} {q r : Inbox String ε} (h : l.Agrees q) {a : Arrival ε}
    (hr : q.receive = some (a, r)) :
    (l.enter .receive (.delivered q.received a)).Agrees r := by
  have hbookings := Inbox.bookings_of_receive hr
  obtain ⟨rest, hqueue, rfl⟩ := Inbox.receive_cases hr
  refine ⟨?_, ?_, ?_, ?_, ?_⟩
  · show (l.delivered ++ [(q.received, a)]).map (·.2) ++ _ = l.accepted
    rw [Inbox.queue_release, ← h.order, hqueue]
    simp
  · show (l.delivered ++ [(q.received, a)]).map (·.1) =
      (List.range (l.delivered ++ [_]).length).map UInt64.ofNat
    rw [List.map_append, h.numbered, List.length_append, List.length_singleton, List.range_succ,
      List.map_append, h.received]
    rfl
  · show _ = UInt64.ofNat (l.delivered ++ [_]).length
    rw [Inbox.received_release, List.length_append, List.length_singleton, UInt64.ofNat_add,
      ← h.received]
    rfl
  · rw [Inbox.refusals_release]
    exact h.refusals
  · intro t b hmem
    rw [hbookings] at hmem
    exact h.delayed t b hmem

theorem enter_of_aside (l : Ledger ε) {s : Step ε} (hs : s.aside = true) (r : Reply ε) :
    l.enter s r = l := by
  cases s with
  | send | fill | sendWaiting | poll | abandon | receive => cases hs
  | _ => rfl

theorem enter_noSender (l : Ledger ε) (s : Step ε) : l.enter s .noSender = l := by
  cases s with
  | sendWaiting name ticket a => cases ticket <;> rfl
  | _ => rfl

theorem Agrees.effect {l : Ledger ε} {x : Exchange ε} (h : l.Agrees x.inbox)
    (hx : x.inbox.Distinct) {s : Step ε} {q : Inbox String ε} {r : Reply ε}
    (he : Effect x s q r) : (l.enter s r).Agrees q := by
  cases he with
  | aside hs =>
    rw [enter_of_aside l hs]
    exact h
  | close hs =>
    rw [enter_of_aside l hs]
    exact h.congr rfl rfl rfl fun _ hb => hb
  | noSender =>
    rw [enter_noSender]
    exact h
  | send => exact h.send _ _
  | fill => exact h.fill _ _ _
  | sendOrLeave => exact h.sendOrLeave _ _
  | sendWaiting => exact h.sendWaiting hx _ _ _
  | poll hp => exact h.poll hp
  | nobodyWaits => exact h
  | abandon => exact h.abandon _
  | receive hr => exact h.receive hr
  | unread hr => rcases hr with rfl | rfl | rfl <;> exact h

/-- Ledger and queue agree after every step if they agreed before it. -/
theorem Agrees.step {l : Ledger ε} {x : Exchange ε} (h : l.Agrees x.inbox)
    (hx : x.inbox.Distinct) (s : Step ε) : (l.enter s (x.step s).2).Agrees (x.step s).1.inbox :=
  h.effect hx (step_effect x s)

theorem enterAll_cons (l : Ledger ε) (s : Step ε) (r : Reply ε)
    (entries : List (Step ε × Reply ε)) :
    l.enterAll ((s, r) :: entries) = (l.enter s r).enterAll entries :=
  rfl

/-- Ledger and queue agree after every run. -/
theorem Agrees.run {l : Ledger ε} {x : Exchange ε} (h : l.Agrees x.inbox)
    (hx : x.inbox.Distinct) (ss : List (Step ε)) :
    (l.enterAll (ss.zip (x.run ss).2)).Agrees (x.run ss).1.inbox := by
  induction ss generalizing l x with
  | nil => exact h
  | cons s ss ih =>
    show (l.enterAll ((s, (x.step s).2) :: ss.zip ((x.step s).1.run ss).2)).Agrees _
    rw [enterAll_cons]
    exact ih (h.step hx s) (inbox_step Inbox.distinct_invariant hx s)

/-! ## Refusals -/

theorem replyTo_eq_refused_iff {event e : ε} {o : Outcome} {r : Refusal} :
    replyTo event o = .refused r e ↔ o = .refused r ∧ event = e := by
  cases o <;> simp [replyTo]

theorem fillFrom_eq_filled (q : Inbox String ε) (time : Instant) (events : Nat → ε) :
    ∃ sent r e, (fillFrom q time events 0 (q.free + 1)).2 = .filled sent r e := by
  cases hc : q.closed with
  | true =>
    rw [fillFrom_of_closed hc]
    exact ⟨_, _, _, rfl⟩
  | false =>
    rw [fillFrom_of_open hc time events 0 (Nat.lt_succ_self _)]
    exact ⟨_, _, _, rfl⟩

/-- An event is refused by a closed queue, or because every place is taken or kept. It is handed
back, and the queue is as it was. -/
theorem Agrees.refused_effect {l : Ledger ε} {x : Exchange ε} (h : l.Agrees x.inbox)
    (hx : x.inbox.Sound) {s : Step ε} {q : Inbox String ε} {reply : Reply ε}
    (he : Effect x s q reply) {r : Refusal} {e : ε} (hr : reply = .refused r e) :
    l.handedIn s = some e ∧ q.queue = x.inbox.queue ∧
      (r = .full → x.inbox.queue.length + x.inbox.kept = x.inbox.capacity) := by
  cases he with
  | send =>
    obtain ⟨hout, rfl⟩ := replyTo_eq_refused_iff.1 hr
    refine ⟨rfl, ?_, ?_⟩
    · simp [Inbox.queue_send, hout]
    · rintro rfl
      obtain ⟨hc, hf⟩ := Inbox.full_of_send hout
      exact hx.eq_capacity_of_free_eq_zero hc hf
  | sendOrLeave =>
    obtain ⟨hout, rfl⟩ := replyTo_eq_refused_iff.1 hr
    refine ⟨rfl, ?_, ?_⟩
    · simp [Inbox.queue_sendOrLeave, hout]
    · rintro rfl
      exact absurd hout (Inbox.sendOrLeave_ne_full _ _)
  | sendWaiting =>
    obtain ⟨hout, rfl⟩ := replyTo_eq_refused_iff.1 hr
    refine ⟨rfl, ?_, ?_⟩
    · simp [Inbox.queue_sendWaiting, hout]
    · rintro rfl
      exact absurd hout (Inbox.sendWaiting_ne_full _ _ _)
  | poll hp =>
    obtain ⟨rfl, rfl⟩ := replyTo_eq_refused_iff.1 hr
    refine ⟨?_, ?_, ?_⟩
    · simp [handedIn, h.delayed _ _ (Inbox.bookings_of_poll hp).1]
    · simp [Inbox.queue_of_poll hp]
    · rintro rfl
      exact absurd rfl (Inbox.outcome_of_poll_ne_full hp)
  | fill =>
    -- what is refused at the end of a burst is told in another way
    obtain ⟨sent, r', e', hfilled⟩ := fillFrom_eq_filled x.inbox _ _
    rw [hfilled] at hr
    cases hr
  | aside _ hquiet =>
    rw [hr] at hquiet
    cases hquiet
  | close _ hquiet =>
    rw [hr] at hquiet
    cases hquiet
  | unread hquiet => rcases hquiet with rfl | rfl | rfl <;> cases hr
  | noSender => cases hr
  | nobodyWaits => cases hr
  | abandon => cases hr
  | receive => cases hr

theorem Agrees.refused {l : Ledger ε} {x : Exchange ε} (h : l.Agrees x.inbox)
    (hx : x.inbox.Sound) {s : Step ε} {r : Refusal} {e : ε} (hr : (x.step s).2 = .refused r e) :
    l.handedIn s = some e ∧ (x.step s).1.inbox.queue = x.inbox.queue ∧
      (r = .full → x.inbox.queue.length + x.inbox.kept = x.inbox.capacity) :=
  h.refused_effect hx (step_effect x s) hr

/-- A burst ends with the first event that is refused: those before it are accepted in order, it is
handed back, and if it is refused for want of a place then every place is taken or kept. -/
theorem filled_step {x : Exchange ε} (hx : x.inbox.Sound) {name : String} {time : Instant}
    {events : Nat → ε} {sent : Nat} {r : Refusal} {e : ε}
    (hr : (x.step (.fill name time events)).2 = .filled sent r e) :
    e = events sent ∧
      (x.step (.fill name time events)).1.inbox.queue =
        x.inbox.queue ++ burst time events 0 sent ∧
      (r = .full →
        x.inbox.queue.length + sent + x.inbox.kept = x.inbox.capacity) := by
  simp only [Exchange.step] at hr ⊢
  split at hr
  · rename_i hname
    rw [if_pos hname]
    cases hc : x.inbox.closed with
    | true =>
      rw [fillFrom_of_closed hc] at hr ⊢
      cases hr
      refine ⟨rfl, by simp [burst], ?_⟩
      intro hfull
      cases hfull
    | false =>
      rw [fillFrom_of_open hc time events 0 (Nat.lt_succ_self _), Nat.zero_add] at hr ⊢
      cases hr
      have hwhole := hx.whole hc
      rw [Inbox.places] at hwhole
      exact ⟨rfl, rfl, fun _ => by omega⟩
  · cases hr

end Ledger

/-! ## Every run -/

/-- The ledger of a run from the first step on. -/
def ledgerOf (x : Exchange ε) (ss : List (Step ε)) : Ledger ε :=
  Ledger.empty.enterAll (ss.zip (x.run ss).2)

/-- A run from an exchange with a fresh queue ends with places, tickets and ledger in order. -/
theorem run_of_fresh {n : Nat} {x₀ : Exchange ε} (hx₀ : x₀.inbox = .withPlaces n)
    (ss : List (Step ε)) :
    (x₀.run ss).1.inbox.Sound ∧ (x₀.run ss).1.inbox.Distinct ∧
      (x₀.run ss).1.inbox.capacity = n ∧ (ledgerOf x₀ ss).Agrees (x₀.run ss).1.inbox := by
  have hsound : x₀.inbox.Sound := by
    rw [hx₀]
    exact Inbox.sound_withPlaces n
  have hdistinct : x₀.inbox.Distinct := by
    rw [hx₀]
    exact Inbox.distinct_withPlaces n
  have hcapacity : x₀.inbox.capacity = n := by
    rw [hx₀]
    rfl
  have hagrees : (Ledger.empty : Ledger ε).Agrees x₀.inbox := by
    rw [hx₀]
    exact Ledger.agrees_withPlaces n
  exact ⟨inbox_run Inbox.sound_invariant hsound ss, inbox_run Inbox.distinct_invariant hdistinct ss,
    inbox_run (Inbox.capacity_invariant n) hcapacity ss, hagrees.run hdistinct ss⟩

/-- For every capacity that can be had and every sequence of steps, from an exchange with a hub or
from one with a sender and the reader: what the reader was given and what is still queued are
together what was accepted, in the order in which the senders were told; the reader is told the
words for the places from zero on, and as long as there are enough words these places themselves;
every sender sees the word for how many events were turned away, and so does the reader, who also
sees the one for how many it was given; a refused event is handed back as it was, nothing in the
queue changes, and it is refused for want of a place only if each of them is taken or kept for one
who waits; and no more events than there are places are accepted and not yet delivered. -/
theorem ledger_run (requested : Nat) (h : requested ≤ Inbox.capacityLimit) :
    ∃ q : Inbox String ε, Inbox.ofCapacity requested = .ok q ∧
      ∀ x₀, x₀ = withHub q ∨ x₀ = bare q → ∀ ss : List (Step ε),
        let x := (x₀.run ss).1
        let l := ledgerOf x₀ ss
        let places := max requested Inbox.leastCapacity
        (l.delivered.map (·.2) ++ x.inbox.queue = l.accepted) ∧
        (l.delivered.map (·.1) = (List.range l.delivered.length).map UInt64.ofNat) ∧
        (l.delivered.length ≤ UInt64.size →
          l.delivered.map (·.1.toNat) = List.range l.delivered.length) ∧
        (∀ name, (x.step (.counts name)).2 =
          .counted (if name ∈ x.senders then some (.ofNat l.turnedAway) else none)
            (if x.reader = .taken then some (.ofNat l.turnedAway) else none)
            (if x.reader = .taken then some (.ofNat l.delivered.length) else none)) ∧
        (∀ s r e, (x.step s).2 = .refused r e →
          l.handedIn s = some e ∧ (x.step s).1.inbox.queue = x.inbox.queue ∧
            (r = .full → x.inbox.queue.length + x.inbox.kept = places)) ∧
        (∀ name time events sent r e, (x.step (.fill name time events)).2 = .filled sent r e →
          e = events sent ∧
            (x.step (.fill name time events)).1.inbox.queue =
              x.inbox.queue ++ burst time events 0 sent ∧
            (r = .full → x.inbox.queue.length + sent + x.inbox.kept = places)) ∧
        l.accepted.length ≤ l.delivered.length + places := by
  refine ⟨_, Inbox.ofCapacity_of_le h, ?_⟩
  intro x₀ hx₀ ss x l places
  have hfresh : x₀.inbox = .withPlaces places := by
    rcases hx₀ with rfl | rfl <;> rfl
  obtain ⟨hsound, -, hcapacity, hagrees⟩ :
      x.inbox.Sound ∧ x.inbox.Distinct ∧ x.inbox.capacity = places ∧ l.Agrees x.inbox :=
    run_of_fresh hfresh ss
  refine ⟨hagrees.order, hagrees.numbered, hagrees.numbered_toNat, ?_, ?_, ?_, ?_⟩
  · intro name
    simp only [step, hagrees.refusals, hagrees.received]
  · intro s r e hr
    rw [← hcapacity]
    exact hagrees.refused hsound hr
  · intro name time events sent r e hr
    rw [← hcapacity]
    exact Ledger.filled_step hsound hr
  · -- what is accepted and not delivered is what is queued
    have hlength := hsound.length_queue_le
    rw [hcapacity] at hlength
    have horder := congrArg List.length hagrees.order
    rw [List.length_append, List.length_map] at horder
    omega

/-- Eight events fill the queue and a ninth is turned away; a sender that waits is given the place
that the first event leaves, so that another event is turned away once more; the one that waited is
accepted last. -/
theorem ledger_run_waiting :
    let ss : List (Step Nat) :=
      [.enlist "s", .takeReader, .fill "s" ⟨0⟩ id, .sendWaiting "s" (some "w") ⟨⟨1⟩, 100⟩, .receive,
        .send "s" ⟨⟨2⟩, 200⟩, .poll "w", .receive]
    3 ≤ Inbox.capacityLimit ∧
      ∃ q : Inbox String Nat, Inbox.ofCapacity 3 = .ok q ∧
        (ledgerOf (withHub q) ss).accepted = burst ⟨0⟩ id 0 8 ++ [⟨⟨1⟩, 100⟩] ∧
        (ledgerOf (withHub q) ss).delivered = [(0, ⟨⟨0⟩, 0⟩), (1, ⟨⟨0⟩, 1⟩)] ∧
        (ledgerOf (withHub q) ss).turnedAway = 2 ∧
        ((withHub q).run ss).1.inbox.queue = burst ⟨0⟩ id 2 6 ++ [⟨⟨1⟩, 100⟩] := by
  intro ss
  obtain ⟨q, hq, hrun⟩ := ledger_run (ε := Nat) 3 (by decide)
  refine ⟨by decide, q, hq, ?_⟩
  cases hq
  have hdelivered : (ledgerOf (withHub (.withPlaces 8)) ss).delivered =
      [(0, ⟨⟨0⟩, 0⟩), (1, ⟨⟨0⟩, 1⟩)] := by
    decide +kernel
  have haccepted : (ledgerOf (withHub (.withPlaces 8)) ss).accepted =
      burst ⟨0⟩ id 0 8 ++ [⟨⟨1⟩, 100⟩] := by
    decide +kernel
  refine ⟨haccepted, hdelivered, by decide +kernel, ?_⟩
  have horder : (ledgerOf (withHub (.withPlaces 8)) ss).delivered.map (·.2) ++
      ((withHub (.withPlaces 8)).run ss).1.inbox.queue =
        (ledgerOf (withHub (.withPlaces 8)) ss).accepted :=
    (hrun _ (Or.inl rfl) ss).1
  rw [haccepted, hdelivered] at horder
  have hrest : ([⟨⟨0⟩, 0⟩, ⟨⟨0⟩, 1⟩] : List (Arrival Nat)) ++
      ((withHub (.withPlaces 8)).run ss).1.inbox.queue =
        [⟨⟨0⟩, 0⟩, ⟨⟨0⟩, 1⟩] ++ (burst ⟨0⟩ id 2 6 ++ [⟨⟨1⟩, 100⟩]) :=
    horder
  exact List.append_cancel_left hrest

end Exchange

end TurnTaking
