import TurnTaking.Proofs.Exchange.Invariants
import TurnTaking.Proofs.Replay.Direct
/-!
# A sitting on its way through a script

While a script is being sent, its entries are in four places, one behind the other: those that the
conversation has handled, those in the queue, the one whose sender waits, and those that are still
to be sent. The conversation is alike to one that has handled its share directly (`Tracks`). Sending,
coming back for a place, reading, and running an errand all keep to this, so the order in which they
happen makes no difference; and once nothing is left but to conclude, what is printed is what the
direct conversation prints (`Tracks.conclude`).
-/

namespace TurnTaking

open Time

namespace Inbox

variable {ι ε : Type} [DecidableEq ι] {q : Inbox ι ε}

/-- The queue is open, has places, and has refused nothing. -/
structure Serving (q : Inbox ι ε) : Prop where
  capacity : 0 < q.capacity
  sound : q.Sound
  distinct : q.Distinct
  closed : q.closed = false
  refusals : q.refusals = 0

omit [DecidableEq ι] in
theorem serving_withPlaces {n : Nat} (hn : 0 < n) : (withPlaces n : Inbox ι ε).Serving :=
  ⟨hn, sound_withPlaces n, distinct_withPlaces n, rfl, rfl⟩

theorem Serving.sendWaiting (h : q.Serving) (ticket : ι) (a : Arrival ε) :
    (q.sendWaiting ticket a).1.Serving := by
  obtain ⟨hcapacity, hclosed, hrefusals⟩ := q.sendWaiting_frame ticket a
  refine ⟨?_, h.sound.sendWaiting ticket a, h.distinct.sendWaiting ticket a,
    hclosed.trans h.closed, hrefusals.trans h.refusals⟩
  rw [hcapacity]
  exact h.capacity

theorem Serving.poll (h : q.Serving) {r : Inbox ι ε} {ticket : ι} {o : Outcome} {a : Arrival ε}
    (hpoll : q.poll ticket = some (r, o, a)) : r.Serving := by
  obtain ⟨hcapacity, hclosed, hrefusals⟩ := poll_frame hpoll
  refine ⟨?_, h.sound.poll hpoll, h.distinct.poll hpoll, hclosed.trans h.closed,
    hrefusals.trans h.refusals⟩
  rw [hcapacity]
  exact h.capacity

omit [DecidableEq ι] in
theorem Serving.receive (h : q.Serving) {r : Inbox ι ε} {a : Arrival ε}
    (hreceive : q.receive = some (a, r)) : r.Serving := by
  obtain ⟨hcapacity, hclosed, hrefusals⟩ := receive_frame hreceive
  refine ⟨?_, h.sound.receive hreceive, h.distinct.congr (bookings_of_receive hreceive),
    hclosed.trans h.closed, hrefusals.trans h.refusals⟩
  rw [hcapacity]
  exact h.capacity

/-- A sender without anybody before it is accepted or waits, and is not refused. -/
theorem Serving.sendWaiting_cases (h : q.Serving) (hidle : q.bookings = []) (ticket : ι)
    (a : Arrival ε) :
    ((q.sendWaiting ticket a).2 = .queued ∧ (q.sendWaiting ticket a).1.queue = q.queue ++ [a] ∧
        (q.sendWaiting ticket a).1.bookings = []) ∨
      ((q.sendWaiting ticket a).2 = .waiting ∧ (q.sendWaiting ticket a).1.queue = q.queue ∧
        (q.sendWaiting ticket a).1.bookings = [(ticket, a)]) := by
  have hqueue := q.queue_sendWaiting ticket a
  have hbookings := q.bookings_sendWaiting ticket a
  rw [hidle] at hbookings
  rcases q.sendWaiting_cases ticket a with
    ⟨hclosed, -⟩ | ⟨-, -, -, heq⟩ | ⟨-, -, -, heq⟩ | ⟨-, -, heq⟩
  · rw [h.closed] at hclosed
    cases hclosed
  · rw [heq] at hqueue hbookings ⊢
    exact Or.inr ⟨rfl, by simpa using hqueue, by simpa using hbookings⟩
  · rw [heq] at hqueue hbookings ⊢
    exact Or.inr ⟨rfl, by simpa using hqueue, by simpa using hbookings⟩
  · rw [heq] at hqueue hbookings ⊢
    exact Or.inl ⟨rfl, by simpa using hqueue, by simpa using hbookings⟩

/-- The only one who waits is accepted when it comes back, unless there is still something to
read. -/
theorem Serving.poll_cases (h : q.Serving) {ticket : ι} {a : Arrival ε}
    (hbookings : q.bookings = [(ticket, a)]) :
    ∃ r o, q.poll ticket = some (r, o, a) ∧
      ((o = .queued ∧ r.queue = q.queue ++ [a] ∧ r.bookings = []) ∨
        (o = .waiting ∧ r = q ∧ q.queue ≠ [])) := by
  cases hpoll : q.poll ticket with
  | none =>
    obtain ⟨w, hw, hticket, -⟩ := mem_bookings.1 (hbookings ▸ List.mem_singleton_self (ticket, a))
    exact absurd hticket (waits_eq_false_iff.1 (poll_eq_none_iff.1 hpoll) w hw)
  | some found =>
    obtain ⟨r, o, b⟩ := found
    obtain ⟨hmem, hrest⟩ := bookings_of_poll hpoll
    have hqueue := queue_of_poll hpoll
    have hb : b = a := by
      rw [hbookings] at hmem
      simpa using hmem
    subst hb
    refine ⟨r, o, rfl, ?_⟩
    obtain ⟨before, w, after, hsplit, -, -, -, hcases⟩ := Inbox.poll_cases hpoll
    rcases hcases with ⟨hclosed, -, -⟩ | ⟨-, -, rfl, -⟩ | ⟨-, hgranted, rfl, heq⟩
    · rw [h.closed] at hclosed
      cases hclosed
    · left
      rw [if_neg (by decide), hbookings] at hrest
      exact ⟨rfl, by simpa using hqueue, by simpa using hrest⟩
    · right
      refine ⟨rfl, heq, ?_⟩
      intro hempty
      -- the one who waits is the only one, so it would have been granted a place
      have honly : ∀ v ∈ q.waiting, v = w := by
        intro v hv
        have hlength : q.waiting.length = 1 := by
          have hlength := congrArg List.length hbookings
          simpa [bookings] using hlength
        obtain ⟨u, hu⟩ := List.length_eq_one_iff.1 hlength
        have hw : w ∈ q.waiting := by simp [hsplit]
        rw [hu, List.mem_singleton] at hv hw
        rw [hv, hw]
      have hgranted' : w.granted = true := by
        rcases Nat.eq_zero_or_pos q.free with hfree | hfree
        · obtain ⟨v, hv, hvgranted⟩ := h.sound.exists_granted h.closed hfree hempty
            (Nat.pos_iff_ne_zero.1 h.capacity)
          rw [← honly v hv]
          exact hvgranted
        · exact h.sound.served (Nat.pos_iff_ne_zero.1 hfree) w (by simp [hsplit])
      rw [hgranted] at hgranted'
      cases hgranted'

end Inbox

namespace Sitting

/-- A sitting on its way through a script, of which some entries are still to be sent. -/
structure Tracks (settings : Settings) (script unsent : List (Arrival Event)) (s : Sitting) :
    Prop where
  serving : s.inbox.Serving
  routes : s.routes = Conversation.standardRoutes
  outcome : s.outcome = none
  willing : s.conversation.context.outbox.Willing
  order : ∃ handled,
    script = handled ++ (s.inbox.queue ++ (s.inbox.bookings.map (·.2) ++ unsent)) ∧
      s.conversation.context.Like (Replay.heard settings handled)

variable {settings : Settings} {script unsent : List (Arrival Event)} {s : Sitting}

theorem tracks_fresh {n : Nat} (hn : 0 < n) (settings : Settings)
    (script : List (Arrival Event)) :
    (fresh (.withPlaces n) settings .willing).Tracks settings script script where
  serving := Inbox.serving_withPlaces hn
  routes := rfl
  outcome := rfl
  willing := Outbox.willing_fresh
  order := ⟨[], rfl, Context.Like.refl _⟩

/-! ## The sender -/

theorem Tracks.send {a : Arrival Event} (h : s.Tracks settings script (a :: unsent))
    (hidle : s.inbox.bookings = []) :
    { s with inbox := (s.inbox.sendWaiting () a).1 }.Tracks settings script unsent := by
  obtain ⟨handled, hscript, hlike⟩ := h.order
  rw [hidle] at hscript
  refine ⟨h.serving.sendWaiting () a, h.routes, h.outcome, h.willing, handled, ?_, hlike⟩
  show script = handled ++ ((s.inbox.sendWaiting () a).1.queue ++
    ((s.inbox.sendWaiting () a).1.bookings.map (·.2) ++ unsent))
  rcases h.serving.sendWaiting_cases hidle () a with ⟨-, hqueue, hbookings⟩ | ⟨-, hqueue, hbookings⟩
  · rw [hqueue, hbookings, hscript]
    simp
  · rw [hqueue, hbookings, hscript]
    simp

theorem Tracks.poll {a : Arrival Event} (h : s.Tracks settings script unsent)
    (hbookings : s.inbox.bookings = [((), a)]) {r : Inbox Unit Event} {o : Outcome}
    {b : Arrival Event} (hpoll : s.inbox.poll () = some (r, o, b)) :
    { s with inbox := r }.Tracks settings script unsent := by
  obtain ⟨handled, hscript, hlike⟩ := h.order
  rw [hbookings] at hscript
  refine ⟨h.serving.poll hpoll, h.routes, h.outcome, h.willing, handled, ?_, hlike⟩
  show script = handled ++ (r.queue ++ (r.bookings.map (·.2) ++ unsent))
  obtain ⟨r', o', hpoll', hcases⟩ := h.serving.poll_cases hbookings
  rw [hpoll] at hpoll'
  cases hpoll'
  rcases hcases with ⟨-, hqueue, hidle⟩ | ⟨-, rfl, -⟩
  · rw [hqueue, hidle, hscript]
    simp
  · rw [hbookings]
    exact hscript

/-! ## The conversation and its errands -/

theorem Tracks.read (h : s.Tracks settings script unsent) {a : Arrival Event}
    {r : Inbox Unit Event} (hreceive : s.inbox.receive = some (a, r)) :
    { s with
      inbox := r
      conversation := s.conversation.handle s.routes a.event a.time }.Tracks settings script
      unsent := by
  obtain ⟨handled, hscript, hlike⟩ := h.order
  rw [h.routes, Conversation.handle_standardRoutes]
  refine ⟨h.serving.receive hreceive, rfl, h.outcome,
    Context.willing_hear h.willing a.event a.time, handled ++ [a], ?_, ?_⟩
  · show script = (handled ++ [a]) ++ (r.queue ++ (r.bookings.map (·.2) ++ unsent))
    rw [Inbox.bookings_of_receive hreceive, hscript, (Inbox.queue_of_receive hreceive).1]
    simp
  · rw [Replay.heard_snoc]
    exact hlike.hear a.event a.time

/-- What happens to the conversation beside its handling of events. -/
theorem Tracks.converse (h : s.Tracks settings script unsent) {c : Conversation Unit}
    (hwilling : c.context.outbox.Willing) (hlike : c.context.Like s.conversation.context) :
    { s with conversation := c }.Tracks settings script unsent := by
  obtain ⟨handled, hscript, hlike'⟩ := h.order
  exact ⟨h.serving, h.routes, h.outcome, hwilling, handled, hscript, hlike.trans hlike'⟩

theorem Tracks.settleErrands (h : s.Tracks settings script unsent) :
    { s with conversation := s.conversation.settle }.Tracks settings script unsent := by
  refine h.converse ?_ (Context.like_settle h.willing)
  show s.conversation.context.outbox.settle.Willing
  rw [h.willing.settle]
  exact ⟨h.willing.mode, h.willing.held⟩

theorem Tracks.openGate (h : s.Tracks settings script unsent) :
    { s with conversation := s.conversation.openGate }.Tracks settings script unsent := by
  have hopen : s.conversation.context.outbox.openGate =
      { s.conversation.context.outbox with gateOpen := true } :=
    h.willing.openGate
  refine h.converse ?_ ?_
  · show s.conversation.context.outbox.openGate.Willing
    rw [hopen]
    exact ⟨h.willing.mode, h.willing.held⟩
  · show { s.conversation.context with
      outbox := s.conversation.context.outbox.openGate }.Like s.conversation.context
    rw [hopen]
    exact ⟨rfl, rfl, rfl, rfl, fun _ => rfl⟩

/-! ## The end -/

/-- When everything has been sent and handled, and no errand is left, the sitting is over, and what
is printed is what there is to print of a conversation that has handled the script directly. -/
theorem Tracks.closeIfDone (h : s.Tracks settings script []) (hstopped : s.stopped = some 0)
    (hqueue : s.inbox.queue = []) (hbookings : s.inbox.bookings = [])
    (hready : s.conversation.context.outbox.ready = []) :
    s.closeIfDone.outcome.isSome = true ∧ s.closeIfDone.stopped = some 0 ∧
      s.closeIfDone.conversation.context.outbox.ready = [] ∧
      Replay.outputOf s.closeIfDone = Replay.closing (Replay.heard settings script) := by
  obtain ⟨handled, hscript, hlike⟩ := h.order
  rw [hqueue, hbookings] at hscript
  have hall : script = handled := by simpa using hscript
  have hdone : s.conversation.context.outbox.inFlight = 0 := by
    simp [Outbox.inFlight, hready, h.willing.held]
  have hclose : s.closeIfDone =
      { s with
        conversation := (s.conversation.conclude 0).2
        outcome := some (s.conversation.conclude 0).1
        inbox := s.inbox.close } := by
    unfold Sitting.closeIfDone
    rw [hstopped, h.outcome]
    simp [hdone]
  rw [hclose, hall, ← Replay.closing_like hlike]
  refine ⟨rfl, hstopped, hready, ?_⟩
  simp only [Replay.outputOf, Replay.closing, Conversation.conclude, Context.report,
    Outbox.asked_of_ready_eq_nil hready]
  rw [List.append_assoc]
  rfl

theorem Tracks.stop (h : s.Tracks settings script unsent) (hstopped : s.stopped = none) :
    s.stop.Tracks settings script unsent ∧ s.stop = { s with stopped := some 0 } := by
  have hstop : s.stop = { s with stopped := some 0 } := by
    unfold Sitting.stop
    rw [hstopped, h.serving.refusals]
    rfl
  rw [hstop]
  exact ⟨⟨h.serving, h.routes, h.outcome, h.willing, h.order⟩, rfl⟩

/-! ## A sitting that runs whenever its sender waits -/

theorem Tracks.readQueue (h : s.Tracks settings script unsent) (n : Nat) :
    (s.readQueue n).Tracks settings script unsent ∧
      (s.readQueue n).inbox.bookings = s.inbox.bookings ∧
      (s.readQueue n).stopped = s.stopped ∧
      (s.inbox.queue.length ≤ n → (s.readQueue n).inbox.queue = []) := by
  induction n generalizing s with
  | zero => exact ⟨h, rfl, rfl, fun hlength => List.eq_nil_of_length_eq_zero (Nat.le_zero.1 hlength)⟩
  | succ n ih =>
    cases hreceive : s.inbox.receive with
    | none =>
      have hread : s.readQueue (n + 1) = s := by
        simp [Sitting.readQueue, hreceive]
      rw [hread]
      exact ⟨h, rfl, rfl, fun _ => Inbox.receive_eq_none_iff.1 hreceive⟩
    | some found =>
      obtain ⟨a, r⟩ := found
      have hread : s.readQueue (n + 1) =
          { s with
            inbox := r
            conversation := s.conversation.handle s.routes a.event a.time }.readQueue n := by
        simp [Sitting.readQueue, hreceive]
      obtain ⟨htracks, hbookings, hstopped, hqueue⟩ := ih (h.read hreceive)
      rw [hread]
      refine ⟨htracks, ?_, hstopped, ?_⟩
      · rw [hbookings]
        exact Inbox.bookings_of_receive hreceive
      · intro hlength
        rw [(Inbox.queue_of_receive hreceive).1, List.length_cons] at hlength
        exact hqueue (Nat.le_of_succ_le_succ hlength)

theorem Tracks.ready_settle (h : s.Tracks settings script unsent) :
    s.conversation.settle.context.outbox.ready = [] := by
  show s.conversation.context.outbox.settle.ready = []
  rw [h.willing.settle]
  rfl

/-- A sitting that may still read handles everything queued and runs all its errands. -/
theorem Tracks.settle (h : s.Tracks settings script unsent) (hstopped : s.stopped = none) :
    s.settle.Tracks settings script unsent ∧ s.settle.inbox.bookings = s.inbox.bookings ∧
      s.settle.stopped = none ∧ s.settle.inbox.queue = [] ∧
      s.settle.conversation.context.outbox.ready = [] := by
  obtain ⟨hread, hbookings, hstopped', hqueue⟩ := h.readQueue s.inbox.queue.length
  rw [hstopped] at hstopped'
  have hsettle : s.settle =
      { s.readQueue s.inbox.queue.length with
        conversation := (s.readQueue s.inbox.queue.length).conversation.settle } := by
    unfold Sitting.settle Sitting.closeIfDone
    simp [hstopped, hstopped']
  rw [hsettle]
  exact ⟨hread.settleErrands, hbookings, hstopped', hqueue (Nat.le_refl _), hread.ready_settle⟩

/-- The sender's event is queued in the end, since the sitting makes room while it waits. -/
theorem Tracks.sendWaiting {a : Arrival Event} (h : s.Tracks settings script (a :: unsent))
    (hidle : s.inbox.bookings = []) (hstopped : s.stopped = none) :
    (s.sendWaiting a).1.Tracks settings script unsent ∧
      (s.sendWaiting a).1.inbox.bookings = [] ∧ (s.sendWaiting a).1.stopped = none := by
  have hsent := h.send hidle
  cases hsend : s.inbox.sendWaiting () a with
  | mk q o =>
    have hcases := h.serving.sendWaiting_cases hidle () a
    rw [hsend] at hsent hcases
    rcases hcases with ⟨rfl, -, hbookings⟩ | ⟨rfl, -, hbookings⟩
    · have hsame : s.sendWaiting a = ({ s with inbox := q }, .queued) := by
        simp [Sitting.sendWaiting, hsend]
      rw [hsame]
      exact ⟨hsent, hbookings, hstopped⟩
    · -- the sitting has read everything while the sender waited, so its place is kept for it
      obtain ⟨hran, hbookings', hstopped', hqueue, -⟩ := hsent.settle hstopped
      have hbooked : ({ s with inbox := q }.settle).inbox.bookings = [((), a)] :=
        hbookings'.trans hbookings
      obtain ⟨r, o, hpoll, hpolled⟩ := hran.serving.poll_cases hbooked
      rcases hpolled with ⟨rfl, -, hnobody⟩ | ⟨-, -, hfull⟩
      · have hsame : s.sendWaiting a =
            ({ { s with inbox := q }.settle with inbox := r.abandon () }, .queued) := by
          simp [Sitting.sendWaiting, hsend, hpoll]
        rw [hsame, Inbox.abandon_of_bookings_eq_nil hnobody]
        exact ⟨hran.poll hbooked hpoll, hnobody, hstopped'⟩
      · exact absurd hqueue hfull

/-- A sitting whose sender is gone ends with what the direct conversation prints. -/
theorem Tracks.conclude (h : s.Tracks settings script []) (hidle : s.inbox.bookings = [])
    (hstopped : s.stopped = none) :
    Replay.outputOf s.conclude = Replay.closing (Replay.heard settings script) := by
  obtain ⟨htracks, hbookings, hstopped', hqueue, hready⟩ := h.openGate.settle hstopped
  obtain ⟨hstop, hstopeq⟩ := htracks.stop hstopped'
  -- nothing is read any more, and no errand is left, so that the sitting is over at once
  have hsettle : s.conclude =
      { ({ s with conversation := s.conversation.openGate }.settle).stop with
        conversation :=
          ({ s with conversation := s.conversation.openGate }.settle).stop.conversation.settle
        }.closeIfDone := by
    show ({ s with conversation := s.conversation.openGate }.settle).stop.settle = _
    rw [hstopeq]
    rfl
  rw [hsettle]
  refine (hstop.settleErrands.closeIfDone ?_ ?_ ?_ hstop.ready_settle).2.2.2
  · rw [hstopeq]
  · rw [hstopeq]
    exact hqueue
  · rw [hstopeq]
    exact hbookings.trans hidle

end Sitting

namespace Replay

variable {settings : Settings} {script : List (Arrival Event)} {s : Sitting}

theorem setOffset_of_fits {clock : Clock} {d : Duration}
    (h : clock.origin.nanos + d.nanos < Instant.limit) :
    clock.setOffset d = .ok { clock with now := clock.origin.later d } := by
  simp [Clock.setOffset, Instant.add?, h, Clock.moveTo, Instant.later]

/-- Feeding a script by a clock that is moved by hand sends each entry at its time. -/
theorem feed_tracks (clock : Clock) {entries : List ScriptEntry}
    (h : s.Tracks settings script (entries.map (·.arrival clock.origin)))
    (hidle : s.inbox.bookings = []) (hstopped : s.stopped = none)
    (hroom : ∀ e ∈ entries, clock.origin.nanos + (Duration.ofMillis e.atMs.toNat).nanos <
      Instant.limit) :
    ∃ t, feed .zero s clock .zero entries = .ok t ∧ t.Tracks settings script [] ∧
      t.inbox.bookings = [] ∧ t.stopped = none := by
  induction entries generalizing s clock with
  | nil => exact ⟨s, rfl, h, hidle, hstopped⟩
  | cons e rest ih =>
    have hset := setOffset_of_fits (hroom e List.mem_cons_self)
    obtain ⟨htracks, hidle', hstopped'⟩ := h.sendWaiting hidle hstopped
    obtain ⟨t, hfeed, ht⟩ := ih { clock with now := (e.arrival clock.origin).time }
      htracks hidle' hstopped' fun e' he' => hroom e' (List.mem_cons_of_mem e he')
    refine ⟨t, ?_, ht⟩
    -- no event is late
    have hzero : ∀ d : Duration, d + .zero = d := fun _ => rfl
    rw [feed, hzero, hzero, hset]
    exact hfeed

/-- A replay that does not keep to the times of its script prints what a conversation prints that
handles the script directly. -/
theorem play_eq_directOutput {capacity : Nat} (hcapacity : capacity ≤ Inbox.capacityLimit)
    (settings : Settings) (origin : Instant) (entries : List ScriptEntry)
    (hroom : ∀ e ∈ entries, origin.nanos + (Duration.ofMillis e.atMs.toNat).nanos <
      Instant.limit) :
    play settings capacity origin .zero entries =
      .printed (directOutput settings origin entries) := by
  have hpos : 0 < max capacity Inbox.leastCapacity :=
    Nat.lt_of_lt_of_le (by decide) (Nat.le_max_right _ _)
  obtain ⟨t, hfeed, htracks, hidle, hstopped⟩ :=
    feed_tracks (.startingAt origin) (Sitting.tracks_fresh hpos settings _) rfl rfl hroom
  unfold play
  rw [Inbox.ofCapacity_of_le hcapacity]
  simp only [hfeed]
  rw [htracks.conclude hidle hstopped, ← directOutput_eq]
  rfl

end Replay

end TurnTaking
