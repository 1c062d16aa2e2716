import TurnTaking.Proofs.Crowd.Basic
/-!
# What every move of a crowd keeps

A producer's cursor and the queue belong together: what a producer was told to be accepted and what
it has still to do are its whole list, and whoever waits in the queue waits with the event that its
producer is at (`Held`). An attempt can come to three things (`attempt_cases`), and each keeps to
this, as do a producer that leaves and a reader that reads.

The main statements are `Held.attempt_cases` and `Held.run`.
-/

namespace TurnTaking

open Time

namespace Crowd

variable {ε : Type} {names : List String} {work : String → List (Job ε)} {c : Crowd ε}

/-! ## The account of a crowd -/

/-- Places, tickets and the ledger of a crowd are in order. -/
structure Orderly (c : Crowd ε) : Prop where
  capacity : 0 < c.exchange.inbox.capacity
  sound : c.exchange.inbox.Sound
  distinct : c.exchange.inbox.Distinct
  agrees : c.ledger.Agrees c.exchange.inbox

theorem Orderly.carry (h : c.Orderly) (s : Exchange.Step ε) : (c.carry s).Orderly where
  capacity := by
    have hsame : (c.carry s).exchange.inbox.capacity = c.exchange.inbox.capacity :=
      Exchange.inbox_step (Inbox.capacity_invariant _) rfl s
    rw [hsame]
    exact h.capacity
  sound := Exchange.inbox_step Inbox.sound_invariant h.sound s
  distinct := Exchange.inbox_step Inbox.distinct_invariant h.distinct s
  agrees := h.agrees.step h.distinct s

/-- The reader is there, and nobody but the producers has a sender. -/
structure Attended (names : List String) (c : Crowd ε) : Prop where
  closed : c.exchange.inbox.closed = false
  reader : c.exchange.reader = .taken
  hub : c.exchange.hub = false
  named : ∀ p ∈ c.exchange.senders, p ∈ names

/-- What holds of every crowd on its way through the lists of its producers. -/
structure Held (names : List String) (work : String → List (Job ε)) (c : Crowd ε) : Prop
    extends c.Orderly, Attended names c where
  /-- Whoever has something left to do has a sender. -/
  staffed : ∀ p, c.todo p ≠ [] → p ∈ c.exchange.senders
  /-- The producers were told of the events that the ledger has. -/
  told : c.accepted.map (·.2) = c.ledger.accepted.map (·.event)
  /-- What was accepted from a producer and what it has left are its list. -/
  share : ∀ p, (c.accepted.filter (·.1 == p)).map (·.2) ++ (c.todo p).map (·.event) =
    (work p).map (·.event)
  /-- A producer that waits does so with its next event. -/
  booked : ∀ p a, (p, a) ∈ c.exchange.inbox.bookings →
    ∃ job rest, c.todo p = job :: rest ∧ job.manner = .patient ∧ job.event = a.event
  /-- The producers know whether they wait. -/
  waiting : ∀ p, c.waits p = true ↔ ∃ a, (p, a) ∈ c.exchange.inbox.bookings
  refusals : c.refused = c.ledger.turnedAway
  finished : c.ended = true → c.exchange.inbox.queue = [] ∧ c.exchange.senders = []

theorem Held.not_ended (h : Held names work c) {p : String} (hp : c.todo p ≠ []) :
    c.ended = false := by
  cases hended : c.ended with
  | false => rfl
  | true =>
    have hmem := h.staffed p hp
    rw [(h.finished hended).2] at hmem
    cases hmem

/-! ## What an attempt can come to -/

/-- The event of a producer is accepted. -/
structure Accepts (c : Crowd ε) (p : String) (job : Job ε) (s : Exchange.Step ε) : Prop where
  reply : (c.exchange.step s).2 = .done
  accepted : (c.carry s).ledger.accepted.map (·.event) =
    c.ledger.accepted.map (·.event) ++ [job.event]
  turnedAway : (c.carry s).ledger.turnedAway = c.ledger.turnedAway
  bookings : ∀ t a, (t, a) ∈ (c.carry s).exchange.inbox.bookings ↔
    (t, a) ∈ c.exchange.inbox.bookings ∧ t ≠ p
  length_queue : (c.carry s).exchange.inbox.queue.length = c.exchange.inbox.queue.length + 1

/-- No place is free, and none is kept for the sender with the ticket. -/
def Stuck (q : Inbox String ε) (ticket : String) : Prop :=
  q.free = 0 ∧ ∀ w ∈ q.waiting, w.ticket = ticket → w.granted = false

/-- The producer waits with its event. -/
structure Delays (c : Crowd ε) (p : String) (job : Job ε) (s : Exchange.Step ε) : Prop where
  reply : (c.exchange.step s).2 = .waiting
  manner : job.manner = .patient
  accepted : (c.carry s).ledger.accepted = c.ledger.accepted
  turnedAway : (c.carry s).ledger.turnedAway = c.ledger.turnedAway
  bookings : ∃ a, a.event = job.event ∧ ∀ t b, (t, b) ∈ (c.carry s).exchange.inbox.bookings ↔
    (t, b) ∈ c.exchange.inbox.bookings ∧ t ≠ p ∨ t = p ∧ b = a
  stuck : Stuck c.exchange.inbox p

/-- The event is handed back to the producer. -/
structure Refuses (c : Crowd ε) (p : String) (job : Job ε) (s : Exchange.Step ε) : Prop where
  reply : (c.exchange.step s).2 = .refused .full job.event
  waits : c.waits p = false
  accepted : (c.carry s).ledger.accepted = c.ledger.accepted
  turnedAway : (c.carry s).ledger.turnedAway = c.ledger.turnedAway + 1
  bookings : (c.carry s).exchange.inbox.bookings = c.exchange.inbox.bookings
  stuck : Stuck c.exchange.inbox p

/-- An attempt leaves all but the queue as it is, and the queue open. -/
theorem attempt_frame (c : Crowd ε) (p : String) (job : Job ε) (now : Instant) :
    (c.carry (c.attemptStep p job now)).exchange.senders = c.exchange.senders ∧
      (c.carry (c.attemptStep p job now)).exchange.hub = c.exchange.hub ∧
      (c.carry (c.attemptStep p job now)).exchange.reader = c.exchange.reader ∧
      (c.carry (c.attemptStep p job now)).exchange.inbox.closed = c.exchange.inbox.closed := by
  unfold attemptStep
  cases job.manner with
  | insisting =>
    simp only [carry, Exchange.step]
    split
    · exact ⟨rfl, rfl, rfl, (Inbox.send_frame _ _).2⟩
    · exact ⟨rfl, rfl, rfl, rfl⟩
  | patient =>
    cases hwaits : c.waits p with
    | true =>
      simp only [if_true, carry, Exchange.step]
      split
      · rename_i q o a hpoll
        exact ⟨rfl, rfl, rfl, (Inbox.poll_frame hpoll).2.1⟩
      · exact ⟨rfl, rfl, rfl, rfl⟩
    | false =>
      simp only [Bool.false_eq_true, if_false, carry, Exchange.step]
      split
      · exact ⟨rfl, rfl, rfl, (Inbox.sendWaiting_frame _ _ _).2.1⟩
      · exact ⟨rfl, rfl, rfl, rfl⟩

theorem Attended.attempt (h : Attended names c) (p : String) (job : Job ε) (now : Instant) :
    Attended names (c.carry (c.attemptStep p job now)) := by
  obtain ⟨hsenders, hhub, hreader, hclosed⟩ := attempt_frame c p job now
  refine ⟨hclosed.trans h.closed, hreader.trans h.reader, hhub.trans h.hub, ?_⟩
  intro t ht
  rw [hsenders] at ht
  exact h.named t ht

section

variable {p : String} {job : Job ε} {rest : List (Job ε)}

/-- Only a producer that waits for a place has one booked. -/
theorem Held.not_booked (h : Held names work c) (hwaits : c.waits p = false) (a : Arrival ε) :
    (p, a) ∉ c.exchange.inbox.bookings := by
  intro hmem
  have htrue := (h.waiting p).2 ⟨a, hmem⟩
  rw [hwaits] at htrue
  cases htrue

/-- Without a booking, taking off those of a producer takes nothing off. -/
theorem Held.bookings_iff (h : Held names work c) (hwaits : c.waits p = false) (t : String)
    (a : Arrival ε) : (t, a) ∈ c.exchange.inbox.bookings ↔
      (t, a) ∈ c.exchange.inbox.bookings ∧ t ≠ p := by
  constructor
  · intro hmem
    refine ⟨hmem, ?_⟩
    rintro rfl
    exact h.not_booked hwaits a hmem
  · exact And.left

theorem Held.stuck_of_free (h : Held names work c) (hwaits : c.waits p = false)
    (hfree : c.exchange.inbox.free = 0) : Stuck c.exchange.inbox p := by
  refine ⟨hfree, ?_⟩
  rintro w hw rfl
  exact absurd (Inbox.mem_bookings.2 ⟨w, hw, rfl, rfl⟩) (h.not_booked hwaits w.arrival)

/-- An insisting producer is not one that waits. -/
theorem Held.waits_of_insisting (h : Held names work c) (hp : c.todo p = job :: rest)
    (hmanner : job.manner = .insisting) : c.waits p = false := by
  cases hwaits : c.waits p with
  | false => rfl
  | true =>
    obtain ⟨a, hmem⟩ := (h.waiting p).1 hwaits
    obtain ⟨job', rest', hp', hpatient, -⟩ := h.booked p a hmem
    rw [hp] at hp'
    cases hp'
    rw [hmanner] at hpatient
    cases hpatient

/-- An event that takes a free place is accepted. -/
theorem Held.accepts_of_step (h : Held names work c) (hwaits : c.waits p = false)
    {s : Exchange.Step ε} {a : Arrival ε} (hevent : a.event = job.event)
    (hstep : c.exchange.step s =
      ({ c.exchange with inbox := c.exchange.inbox.accept a }, .done))
    (henter : c.ledger.enter s .done = c.ledger.accept [a]) : c.Accepts p job s := by
  refine ⟨?_, ?_, ?_, ?_, ?_⟩
  · rw [hstep]
  · rw [carry, hstep, henter, ← hevent]
    exact List.map_append
  · rw [carry, hstep, henter]
    rfl
  · intro t b
    rw [carry, hstep]
    exact h.bookings_iff hwaits t b
  · rw [carry, hstep]
    exact List.length_append

theorem Held.insisting_cases (h : Held names work c) (hp : c.todo p = job :: rest)
    (hmanner : job.manner = .insisting) (now : Instant) :
    c.Accepts p job (.send p ⟨now, job.event⟩) ∨ c.Refuses p job (.send p ⟨now, job.event⟩) := by
  have hsender : p ∈ c.exchange.senders := h.staffed p (by simp [hp])
  have hwaits := h.waits_of_insisting hp hmanner
  have hstep : c.exchange.step (.send p ⟨now, job.event⟩) =
      ({ c.exchange with inbox := (c.exchange.inbox.send ⟨now, job.event⟩).1 },
        Exchange.replyTo job.event (c.exchange.inbox.send ⟨now, job.event⟩).2) := by
    simp [Exchange.step, hsender]
  rcases c.exchange.inbox.send_cases ⟨now, job.event⟩ with
    ⟨hclosed, -⟩ | ⟨-, hfree, hsend⟩ | ⟨-, -, hsend⟩
  · rw [h.closed] at hclosed
    cases hclosed
  · rw [hsend] at hstep
    right
    refine ⟨?_, hwaits, ?_, ?_, ?_, h.stuck_of_free hwaits hfree⟩
    · rw [hstep]
      rfl
    · rw [carry, hstep]
      rfl
    · rw [carry, hstep]
      rfl
    · rw [carry, hstep]
      rfl
  · rw [hsend] at hstep
    exact Or.inl (h.accepts_of_step hwaits rfl hstep rfl)

/-- A producer that does not wait yet. -/
theorem Held.patient_cases (h : Held names work c) (hp : c.todo p = job :: rest)
    (hmanner : job.manner = .patient) (hwaits : c.waits p = false) (now : Instant) :
    c.Accepts p job (.sendWaiting p (some p) ⟨now, job.event⟩) ∨
      c.Delays p job (.sendWaiting p (some p) ⟨now, job.event⟩) := by
  have hsender : p ∈ c.exchange.senders := h.staffed p (by simp [hp])
  have hstep : c.exchange.step (.sendWaiting p (some p) ⟨now, job.event⟩) =
      ({ c.exchange with inbox := (c.exchange.inbox.sendWaiting p ⟨now, job.event⟩).1 },
        Exchange.replyTo job.event (c.exchange.inbox.sendWaiting p ⟨now, job.event⟩).2) := by
    simp [Exchange.step, hsender]
  rcases c.exchange.inbox.sendWaiting_cases p ⟨now, job.event⟩ with
    ⟨hclosed, -⟩ | ⟨-, hfree, -, hsend⟩ | ⟨-, -, hbusy, -⟩ | ⟨-, -, hsend⟩
  · rw [h.closed] at hclosed
    cases hclosed
  · rw [hsend] at hstep
    right
    refine ⟨?_, hmanner, ?_, ?_, ⟨⟨now, job.event⟩, rfl, ?_⟩, h.stuck_of_free hwaits hfree⟩
    · rw [hstep]
      rfl
    · rw [carry, hstep]
      rfl
    · rw [carry, hstep]
      rfl
    · -- nobody waited under the ticket before, so that the booking is just added
      intro t b
      rw [carry, hstep, ← h.bookings_iff hwaits t b]
      simp [Inbox.bookings, Inbox.join]
  · -- it would be known to wait
    obtain ⟨w, hw, hticket⟩ := Inbox.waits_eq_true_iff.1 hbusy
    exact absurd (Inbox.mem_bookings.2 ⟨w, hw, hticket, rfl⟩) (h.not_booked hwaits w.arrival)
  · rw [hsend] at hstep
    exact Or.inl (h.accepts_of_step hwaits rfl hstep rfl)

/-- A producer that looks after the event it waits with. -/
theorem Held.poll_cases (h : Held names work c) (hp : c.todo p = job :: rest)
    (hmanner : job.manner = .patient) (hwaits : c.waits p = true) :
    c.Accepts p job (.poll p) ∨ c.Delays p job (.poll p) := by
  obtain ⟨a, hmem⟩ := (h.waiting p).1 hwaits
  cases hpoll : c.exchange.inbox.poll p with
  | none =>
    obtain ⟨w, hw, hticket, -⟩ := Inbox.mem_bookings.1 hmem
    exact absurd hticket (Inbox.waits_eq_false_iff.1 (Inbox.poll_eq_none_iff.1 hpoll) w hw)
  | some found =>
    obtain ⟨r, o, b⟩ := found
    have hstep : c.exchange.step (.poll p) =
        ({ c.exchange with inbox := r }, Exchange.replyTo b.event o) := by
      simp [Exchange.step, hpoll]
    obtain ⟨hmemb, hbookings⟩ := Inbox.bookings_of_poll hpoll
    -- the event that is found is the one that the producer is at
    have hevent : b.event = job.event := by
      obtain ⟨job', rest', hp', -, hevent⟩ := h.booked p b hmemb
      rw [hp] at hp'
      cases hp'
      exact hevent.symm
    have hlookup := h.agrees.delayed p b hmemb
    obtain ⟨before, w, after, hsplit, -, hticket, rfl, hcases⟩ := Inbox.poll_cases hpoll
    rcases hcases with ⟨hclosed, -, -⟩ | ⟨-, -, rfl, rfl⟩ | ⟨-, hgranted, rfl, rfl⟩
    · rw [h.closed] at hclosed
      cases hclosed
    · left
      refine ⟨?_, ?_, ?_, ?_, ?_⟩
      · rw [hstep]
        rfl
      · rw [carry, hstep]
        show (c.ledger.accepted ++ (c.ledger.delayed.lookup p).toList).map (·.event) = _
        rw [hlookup, List.map_append]
        simp [hevent]
      · rw [carry, hstep]
        rfl
      · intro t a
        rw [carry, hstep]
        show (t, a) ∈ Inbox.bookings _ ↔ _
        rw [hbookings, if_neg (by decide)]
        exact h.distinct.mem_eraseP_iff
      · rw [carry, hstep]
        exact List.length_append
    · right
      refine ⟨?_, hmanner, ?_, ?_, ⟨w.arrival, hevent, ?_⟩, ?_, ?_⟩
      · rw [hstep]
        rfl
      · rw [carry, hstep]
        rfl
      · rw [carry, hstep]
        rfl
      · intro t b
        rw [carry, hstep]
        show (t, b) ∈ c.exchange.inbox.bookings ↔ _
        constructor
        · intro hb
          by_cases ht : t = p
          · subst ht
            have hlookup' := h.agrees.delayed t b hb
            rw [hlookup] at hlookup'
            cases hlookup'
            exact Or.inr ⟨rfl, rfl⟩
          · exact Or.inl ⟨hb, ht⟩
        · rintro (⟨hb, -⟩ | ⟨rfl, rfl⟩)
          · exact hb
          · exact hmemb
      · -- a free place would be the one granted
        rcases Nat.eq_zero_or_pos c.exchange.inbox.free with hfree | hfree
        · exact hfree
        · have hserved := h.sound.served (Nat.pos_iff_ne_zero.1 hfree) w (by simp [hsplit])
          rw [hgranted] at hserved
          cases hserved
      · intro v hv hticket'
        have hsame : v = w :=
          h.distinct.eq_of_ticket_eq hv (by simp [hsplit]) (hticket'.trans hticket.symm)
        rw [hsame]
        exact hgranted

/-- An attempt comes to one of three things. -/
theorem Held.attempt_cases (h : Held names work c) (hp : c.todo p = job :: rest) (now : Instant) :
    c.Accepts p job (c.attemptStep p job now) ∨ c.Delays p job (c.attemptStep p job now) ∨
      c.Refuses p job (c.attemptStep p job now) := by
  unfold attemptStep
  cases hmanner : job.manner with
  | insisting =>
    rcases h.insisting_cases hp hmanner now with haccepts | hrefuses
    · exact Or.inl haccepts
    · exact Or.inr (Or.inr hrefuses)
  | patient =>
    cases hwaits : c.waits p with
    | true =>
      rcases h.poll_cases hp hmanner hwaits with haccepts | hdelays
      · exact Or.inl haccepts
      · exact Or.inr (Or.inl hdelays)
    | false =>
      rcases h.patient_cases hp hmanner hwaits now with haccepts | hdelays
      · exact Or.inl haccepts
      · exact Or.inr (Or.inl hdelays)

/-! ## Every move keeps to the account -/

theorem Held.accepts (h : Held names work c) (hp : c.todo p = job :: rest) {now : Instant}
    (ha : c.Accepts p job (c.attemptStep p job now)) :
    Held names work ((c.carry (c.attemptStep p job now)).heed p job rest .done) := by
  have horderly := h.toOrderly.carry (c.attemptStep p job now)
  have hended := h.not_ended (p := p) (by simp [hp])
  have hattended := h.toAttended.attempt p job now
  have hsenders := (attempt_frame c p job now).1
  constructor
  case toOrderly => exact ⟨horderly.capacity, horderly.sound, horderly.distinct, horderly.agrees⟩
  case toAttended =>
    exact ⟨hattended.closed, hattended.reader, hattended.hub, hattended.named⟩
  case staffed =>
    intro t ht
    show t ∈ (c.carry _).exchange.senders
    rw [hsenders]
    by_cases htp : t = p
    · rw [htp]
      exact h.staffed p (by simp [hp])
    · refine h.staffed t ?_
      rw [← Function.update_of_ne htp rest c.todo]
      exact ht
  case told =>
    show (c.accepted ++ [(p, job.event)]).map (·.2) = _
    rw [List.map_append, h.told]
    exact ha.accepted.symm
  case share =>
    intro t
    show ((c.accepted ++ [(p, job.event)]).filter (·.1 == t)).map (·.2) ++
      (Function.update c.todo p rest t).map (·.event) = _
    rw [← h.share t]
    by_cases htp : t = p
    · -- the event moves from the front of what is left to the end of what was accepted
      subst htp
      simp [List.filter_append, hp]
    · simp [List.filter_append, htp, Ne.symm htp]
  case booked =>
    intro t a hmem
    obtain ⟨hmem', htp⟩ := (ha.bookings t a).1 hmem
    obtain ⟨job', rest', ht, hmanner, hevent⟩ := h.booked t a hmem'
    refine ⟨job', rest', ?_, hmanner, hevent⟩
    rw [← ht]
    exact Function.update_of_ne htp _ _
  case waiting =>
    intro t
    show Function.update c.waits p false t = true ↔
      ∃ a, (t, a) ∈ (c.carry _).exchange.inbox.bookings
    simp only [ha.bookings]
    by_cases htp : t = p
    · simp [htp]
    · rw [Function.update_of_ne htp, h.waiting t]
      simp [htp]
  case refusals => exact h.refusals.trans ha.turnedAway.symm
  case finished =>
    -- the queue cannot have ended while a producer still had something to do
    intro htrue
    have hfalse : c.ended = true := htrue
    rw [hended] at hfalse
    cases hfalse

theorem Held.delays (h : Held names work c) (hp : c.todo p = job :: rest) {now : Instant}
    (hd : c.Delays p job (c.attemptStep p job now)) :
    Held names work ((c.carry (c.attemptStep p job now)).heed p job rest .waiting) := by
  have horderly := h.toOrderly.carry (c.attemptStep p job now)
  have hended := h.not_ended (p := p) (by simp [hp])
  have hattended := h.toAttended.attempt p job now
  have hsenders := (attempt_frame c p job now).1
  obtain ⟨b, hevent, hbookings⟩ := hd.bookings
  constructor
  case toOrderly => exact ⟨horderly.capacity, horderly.sound, horderly.distinct, horderly.agrees⟩
  case toAttended =>
    exact ⟨hattended.closed, hattended.reader, hattended.hub, hattended.named⟩
  case staffed =>
    intro t ht
    show t ∈ (c.carry _).exchange.senders
    rw [hsenders]
    exact h.staffed t ht
  case told =>
    show c.accepted.map (·.2) = (c.carry _).ledger.accepted.map (·.event)
    rw [hd.accepted]
    exact h.told
  case share => exact h.share
  case booked =>
    intro t a hmem
    rcases (hbookings t a).1 hmem with ⟨hmem', -⟩ | ⟨rfl, rfl⟩
    · exact h.booked t a hmem'
    · exact ⟨job, rest, hp, hd.manner, hevent.symm⟩
  case waiting =>
    intro t
    show Function.update c.waits p true t = true ↔
      ∃ a, (t, a) ∈ (c.carry _).exchange.inbox.bookings
    simp only [hbookings]
    by_cases htp : t = p
    · simp [htp]
    · rw [Function.update_of_ne htp, h.waiting t]
      simp [htp]
  case refusals => exact h.refusals.trans hd.turnedAway.symm
  case finished =>
    intro htrue
    have hfalse : c.ended = true := htrue
    rw [hended] at hfalse
    cases hfalse

theorem Held.refuses (h : Held names work c) (hp : c.todo p = job :: rest) {now : Instant}
    (hr : c.Refuses p job (c.attemptStep p job now)) :
    Held names work
      ((c.carry (c.attemptStep p job now)).heed p job rest (.refused .full job.event)) := by
  have horderly := h.toOrderly.carry (c.attemptStep p job now)
  have hended := h.not_ended (p := p) (by simp [hp])
  have hattended := h.toAttended.attempt p job now
  have hsenders := (attempt_frame c p job now).1
  -- the event that is handed back is the one that was handed in, so nothing is left out
  have htodo : Function.update c.todo p (job :: rest) = c.todo := by
    rw [← hp, Function.update_eq_self]
  have hwaits : Function.update c.waits p false = c.waits := by
    rw [← hr.waits, Function.update_eq_self]
  constructor
  case toOrderly => exact ⟨horderly.capacity, horderly.sound, horderly.distinct, horderly.agrees⟩
  case toAttended =>
    exact ⟨hattended.closed, hattended.reader, hattended.hub, hattended.named⟩
  case staffed =>
    intro t ht
    show t ∈ (c.carry _).exchange.senders
    rw [hsenders]
    refine h.staffed t ?_
    rw [← htodo]
    exact ht
  case told =>
    show c.accepted.map (·.2) = (c.carry _).ledger.accepted.map (·.event)
    rw [hr.accepted]
    exact h.told
  case share =>
    intro t
    show _ ++ (Function.update c.todo p (job :: rest) t).map (·.event) = _
    rw [htodo]
    exact h.share t
  case booked =>
    intro t a hmem
    show ∃ job' rest', Function.update c.todo p (job :: rest) t = job' :: rest' ∧ _
    rw [htodo]
    refine h.booked t a ?_
    rw [← hr.bookings]
    exact hmem
  case waiting =>
    intro t
    show Function.update c.waits p false t = true ↔
      ∃ a, (t, a) ∈ (c.carry _).exchange.inbox.bookings
    rw [hwaits, hr.bookings]
    exact h.waiting t
  case refusals =>
    show c.refused + 1 = (c.carry _).ledger.turnedAway
    rw [hr.turnedAway, h.refusals]
  case finished =>
    intro htrue
    have hfalse : c.ended = true := htrue
    rw [hended] at hfalse
    cases hfalse

theorem Held.attempt (h : Held names work c) (p : String) (now : Instant) :
    Held names work (c.move (.attempt p now)) := by
  simp only [move]
  split
  · exact h
  · rename_i job rest hp
    rcases h.attempt_cases hp now with ha | hd | hr
    · rw [ha.reply]
      exact h.accepts hp ha
    · rw [hd.reply]
      exact h.delays hp hd
    · rw [hr.reply]
      exact h.refuses hp hr

/-- A producer that leaves has nothing left to do, so everybody who has keeps its sender. -/
theorem Held.leave (h : Held names work c) (p : String) :
    Held names work (c.move (.leave p)) := by
  simp only [move]
  split
  · rename_i hp
    have horderly := h.toOrderly.carry (.dropSender p)
    constructor
    case toOrderly => exact horderly
    case toAttended =>
      refine ⟨h.closed, h.reader, h.hub, ?_⟩
      intro t ht
      exact h.named t (List.mem_of_mem_erase ht)
    case staffed =>
      intro t ht
      have htp : t ≠ p := by
        rintro rfl
        exact ht hp
      exact (List.mem_erase_of_ne htp).2 (h.staffed t ht)
    case told => exact h.told
    case share => exact h.share
    case booked => exact h.booked
    case waiting => exact h.waiting
    case refusals => exact h.refusals
    case finished =>
      intro hended
      obtain ⟨hqueue, hsenders⟩ := h.finished hended
      refine ⟨hqueue, ?_⟩
      show c.exchange.senders.erase p = []
      rw [hsenders]
      rfl
  · exact h

end

/-- What the reader can come to. -/
theorem Held.receive_cases (h : Held names work c) :
    (∃ a r, c.exchange.inbox.receive = some (a, r) ∧
        c.exchange.step .receive =
          ({ c.exchange with inbox := r }, .delivered c.exchange.inbox.received a)) ∨
      (c.exchange.inbox.queue = [] ∧ c.exchange.deserted = true ∧
        c.exchange.step .receive = (c.exchange, .ended)) ∨
      (c.exchange.inbox.queue = [] ∧ c.exchange.deserted = false ∧
        c.exchange.step .receive = (c.exchange, .waiting)) := by
  cases hreceive : c.exchange.inbox.receive with
  | none =>
    have hqueue := Inbox.receive_eq_none_iff.1 hreceive
    cases hdeserted : c.exchange.deserted with
    | true => simp [Exchange.step, h.reader, hreceive, hqueue, hdeserted]
    | false => simp [Exchange.step, h.reader, hreceive, hqueue, hdeserted]
  | some found =>
    obtain ⟨a, r⟩ := found
    exact Or.inl ⟨a, r, rfl, by simp [Exchange.step, h.reader, hreceive]⟩

theorem Held.receive (h : Held names work c) : Held names work (c.move .receive) := by
  have horderly := h.toOrderly.carry .receive
  rcases h.receive_cases with ⟨a, r, hreceive, hstep⟩ | ⟨hqueue, hdeserted, hstep⟩ | ⟨-, -, hstep⟩
  · simp only [move, hstep]
    have hbookings := Inbox.bookings_of_receive hreceive
    rw [carry, hstep] at horderly ⊢
    constructor
    case toOrderly => exact horderly
    case toAttended =>
      exact ⟨(Inbox.receive_frame hreceive).2.1.trans h.closed, h.reader, h.hub, h.named⟩
    case staffed => exact h.staffed
    case told => exact h.told
    case share => exact h.share
    case booked =>
      intro t b hmem
      exact h.booked t b (hbookings ▸ hmem)
    case waiting =>
      intro t
      show c.waits t = true ↔ ∃ b, (t, b) ∈ r.bookings
      rw [hbookings]
      exact h.waiting t
    case refusals => exact h.refusals
    case finished =>
      intro hended
      -- nothing can be taken out of a queue that has ended
      have hempty := (h.finished hended).1
      rw [(Inbox.queue_of_receive hreceive).1] at hempty
      cases hempty
  · simp only [move, hstep]
    rw [carry, hstep]
    have hsenders : c.exchange.senders = [] := by
      simp only [Exchange.deserted, Bool.and_eq_true, List.isEmpty_iff] at hdeserted
      exact hdeserted.1.1
    exact { h with finished := fun _ => ⟨hqueue, hsenders⟩ }
  · simp only [move, hstep]
    rw [carry, hstep]
    exact h

theorem Held.move (h : Held names work c) (m : Move) : Held names work (c.move m) := by
  cases m with
  | attempt p now => exact h.attempt p now
  | leave p => exact h.leave p
  | receive => exact h.receive

theorem Held.run (h : Held names work c) (moves : List Move) : Held names work (c.run moves) := by
  induction moves generalizing c with
  | nil => exact h
  | cons m moves ih => exact ih (h.move m)

/-- Only the producers have work at the start, each its whole list. -/
def shares (names : List String) (work : String → List (Job ε)) (p : String) : List (Job ε) :=
  if p ∈ names then work p else []

theorem held_start {n : Nat} (hn : 0 < n) (names : List String)
    (work : String → List (Job ε)) :
    Held names (shares names work) (start (.withPlaces n) names work) := by
  have hexchange := exchange_start (.withPlaces n) names work
  constructor
  case toOrderly =>
    refine ⟨?_, ?_, ?_, ?_⟩
    · rw [hexchange]
      exact hn
    · rw [hexchange]
      exact Inbox.sound_withPlaces n
    · rw [hexchange]
      exact Inbox.distinct_withPlaces n
    · rw [hexchange]
      exact Exchange.Ledger.agrees_withPlaces n
  case toAttended =>
    refine ⟨?_, ?_, ?_, ?_⟩
    · rw [hexchange]
      rfl
    · rw [hexchange]
    · rw [hexchange]
    · intro p hp
      rw [hexchange] at hp
      simpa using mem_enlisted.1 hp
  case staffed =>
    intro p hp
    rw [hexchange]
    refine mem_enlisted.2 (Or.inr ?_)
    by_contra hnot
    exact hp (if_neg hnot)
  case told => rfl
  case share =>
    intro p
    rfl
  case booked =>
    intro p a hmem
    rw [hexchange] at hmem
    cases hmem
  case waiting =>
    intro p
    rw [hexchange]
    simp [start, Inbox.bookings, Inbox.withPlaces]
  case refusals => rfl
  case finished =>
    intro hended
    cases hended

end Crowd

end TurnTaking
