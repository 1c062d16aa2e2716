import TurnTaking.Proofs.Crowd.Held
/-!
# Every event is delivered once and in order

Any number of producers hand in their lists to one reader, in any order of attempts and with any
number of refusals. Once the reader is told that the queue has ended, it has been given the events
of every producer, each once and in the producer's order, and has been told the words for the places
from zero on.

The end can be reached from everywhere: as long as there is something to read, the reader can read
it; otherwise a place is free, or one is kept for somebody who waits, so that some producer can get
an event accepted; and if nothing is left to do, everybody can leave.

The main statement is `interleaves_of_ended`.
-/

namespace TurnTaking

open Time

namespace Crowd

variable {ε : Type} {names : List String} {work : String → List (Job ε)} {c : Crowd ε}

/-! ## The end can be reached -/

/-- How much is left to do: an event handed in is one to be read. -/
def left (names : List String) (c : Crowd ε) : Nat :=
  2 * (names.flatMap c.todo).length + c.exchange.inbox.queue.length +
    c.exchange.senders.length + if c.ended then 0 else 1

theorem length_update_le {todo : String → List (Job ε)} {p : String} {job : Job ε}
    {rest : List (Job ε)} (hp : todo p = job :: rest) (t : String) :
    (Function.update todo p rest t).length ≤ (todo t).length := by
  by_cases htp : t = p
  · subst htp
    simp [hp]
  · simp [htp]

theorem length_flatMap_update_le {todo : String → List (Job ε)} {p : String} {job : Job ε}
    {rest : List (Job ε)} (hp : todo p = job :: rest) (names : List String) :
    (names.flatMap (Function.update todo p rest)).length ≤ (names.flatMap todo).length := by
  induction names with
  | nil => exact Nat.le_refl _
  | cons n names ih =>
    have hn := length_update_le hp n
    rw [List.flatMap_cons, List.flatMap_cons, List.length_append, List.length_append]
    omega

/-- A producer that goes on to its next event leaves less to do. -/
theorem length_flatMap_update_lt {todo : String → List (Job ε)} {p : String} {job : Job ε}
    {rest : List (Job ε)} (hp : todo p = job :: rest) (hmem : p ∈ names) :
    (names.flatMap (Function.update todo p rest)).length < (names.flatMap todo).length := by
  induction names with
  | nil => cases hmem
  | cons n names ih =>
    have hn := length_update_le hp n
    have hrest := length_flatMap_update_le hp names
    rw [List.flatMap_cons, List.flatMap_cons, List.length_append, List.length_append]
    rcases List.mem_cons.1 hmem with rfl | hmem
    · rw [Function.update_self, hp, List.length_cons]
      omega
    · have hlt := ih hmem
      omega

/-- An event that is accepted leaves less to do, though there is more to be read. -/
theorem Held.left_attempt_lt (h : Held names work c) {p : String} {job : Job ε}
    {rest : List (Job ε)} (hp : c.todo p = job :: rest) {now : Instant}
    (ha : c.Accepts p job (c.attemptStep p job now)) :
    left names (c.move (.attempt p now)) < left names c := by
  have hsenders := (attempt_frame c p job now).1
  have hmem : p ∈ names := h.named p (h.staffed p (by simp [hp]))
  have htodo := length_flatMap_update_lt hp hmem
  have hmove : c.move (.attempt p now) =
      (c.carry (c.attemptStep p job now)).heed p job rest .done := by
    simp only [Crowd.move, hp, ha.reply]
  rw [hmove]
  show 2 * (names.flatMap (Function.update c.todo p rest)).length +
    (c.carry _).exchange.inbox.queue.length + (c.carry _).exchange.senders.length + _ < _
  rw [ha.length_queue, hsenders]
  show _ < 2 * _ + c.exchange.inbox.queue.length + c.exchange.senders.length +
    if c.ended then 0 else 1
  show _ + (if c.ended then 0 else 1) < _
  omega

/-- Somebody who still has something to do can have it accepted. -/
theorem Held.exists_not_stuck (h : Held names work c) (hqueue : c.exchange.inbox.queue = [])
    {p : String} (hp : c.todo p ≠ []) :
    ∃ t job rest, c.todo t = job :: rest ∧ ¬ Stuck c.exchange.inbox t := by
  by_cases hfree : c.exchange.inbox.free = 0
  · -- all the places are kept, so one of those who wait can come back
    obtain ⟨w, hw, hgranted⟩ := h.sound.exists_granted h.closed hfree hqueue
      (Nat.pos_iff_ne_zero.1 h.capacity)
    obtain ⟨job, rest, ht, -, -⟩ :=
      h.booked w.ticket w.arrival (Inbox.mem_bookings.2 ⟨w, hw, rfl, rfl⟩)
    refine ⟨w.ticket, job, rest, ht, ?_⟩
    intro hstuck
    have hnot := hstuck.2 w hw rfl
    rw [hgranted] at hnot
    cases hnot
  · obtain ⟨job, rest, hp⟩ := List.exists_cons_of_ne_nil hp
    exact ⟨p, job, rest, hp, fun hstuck => hfree hstuck.1⟩

/-- Nobody waits once nobody has anything left to do. -/
theorem Held.waiting_eq_nil (h : Held names work c) (hidle : ∀ p, c.todo p = []) :
    c.exchange.inbox.waiting = [] := by
  refine List.eq_nil_iff_forall_not_mem.2 ?_
  intro w hw
  obtain ⟨job, rest, ht, -, -⟩ :=
    h.booked w.ticket w.arrival (Inbox.mem_bookings.2 ⟨w, hw, rfl, rfl⟩)
  rw [hidle w.ticket] at ht
  cases ht

/-- Before the end, some move leaves less to do. -/
theorem Held.exists_move_lt (h : Held names work c) (hended : c.ended = false) :
    ∃ m, left names (c.move m) < left names c := by
  rcases h.receive_cases with
    ⟨a, r, hreceive, hstep⟩ | ⟨-, -, hstep⟩ | ⟨hqueue, hstaffed, -⟩
  · -- there is something to read
    refine ⟨.receive, ?_⟩
    have hlength := congrArg List.length (Inbox.queue_of_receive hreceive).1
    rw [List.length_cons] at hlength
    simp only [Crowd.move, hstep, carry, left]
    omega
  · -- the queue has ended
    refine ⟨.receive, ?_⟩
    simp only [Crowd.move, hstep, carry, left, hended]
    simp
  · by_cases hbusy : ∃ p, c.todo p ≠ []
    · obtain ⟨p, hp⟩ := hbusy
      obtain ⟨t, job, rest, ht, hfree⟩ := h.exists_not_stuck hqueue hp
      refine ⟨.attempt t ⟨0⟩, ?_⟩
      rcases h.attempt_cases ht ⟨0⟩ with ha | hd | hr
      · exact h.left_attempt_lt ht ha
      · exact absurd hd.stuck hfree
      · exact absurd hr.stuck hfree
    · -- everybody is done, but somebody has not left yet
      have hidle : ∀ p, c.todo p = [] := by
        intro p
        by_contra hp
        exact hbusy ⟨p, hp⟩
      cases hsenders : c.exchange.senders with
      | nil =>
        have hdeserted : c.exchange.deserted = true := by
          simp [Exchange.deserted, hsenders, h.hub, h.waiting_eq_nil hidle]
        rw [hstaffed] at hdeserted
        cases hdeserted
      | cons p others =>
        refine ⟨.leave p, ?_⟩
        simp only [Crowd.move, hidle p, carry, left, Exchange.step, hsenders]
        simp [List.length_cons]

theorem Held.exists_ended (h : Held names work c) : ∃ moves, (c.run moves).ended = true := by
  -- the induction is on how much is left to do
  induction hn : left names c using Nat.strongRecOn generalizing c with
  | _ n ih =>
    subst hn
    cases hended : c.ended with
    | true => exact ⟨[], hended⟩
    | false =>
      obtain ⟨m, hm⟩ := h.exists_move_lt hended
      obtain ⟨moves, hmoves⟩ := ih _ hm (h.move m) rfl
      exact ⟨m :: moves, hmoves⟩

/-! ## What has been delivered at the end -/

/-- At the end the reader has been given all that was accepted. -/
theorem Held.delivered_eq (h : Held names work c) (hended : c.ended = true) :
    c.ledger.delivered.map (·.2.event) = c.accepted.map (·.2) := by
  have horder := h.agrees.order
  rw [(h.finished hended).1, List.append_nil] at horder
  rw [h.told, ← horder, List.map_map]
  rfl

/-- At the end everything has been accepted from everybody. -/
theorem Held.accepted_eq (h : Held names work c) (hended : c.ended = true) (p : String) :
    (c.accepted.filter (·.1 == p)).map (·.2) = (work p).map (·.event) := by
  have htodo : c.todo p = [] := by
    by_contra hp
    rw [h.not_ended hp] at hended
    cases hended
  have hshare := h.share p
  rw [htodo, List.map_nil, List.append_nil] at hshare
  exact hshare

theorem Held.interleaves (h : Held names (shares names work) c) (hended : c.ended = true) :
    Interleaves names (fun p => (work p).map (·.event)) (c.ledger.delivered.map (·.2.event)) := by
  refine ⟨c.accepted, (h.delivered_eq hended).symm, ?_, ?_⟩
  · intro o ho
    by_contra hnot
    -- nothing was accepted from anybody else
    have hnothing := h.accepted_eq hended o.1
    rw [shares, if_neg hnot, List.map_nil, List.map_eq_nil_iff] at hnothing
    have hmem : o ∈ c.accepted.filter (·.1 == o.1) := List.mem_filter.2 ⟨ho, by simp⟩
    rw [hnothing] at hmem
    cases hmem
  · intro p hp
    rw [h.accepted_eq hended p, shares, if_pos hp]

/-- For every capacity that can be had, all producers with their lists of events, each event sent
until it is accepted or waited with, and all orders of their attempts and of the reader's: when the
reader is told that the queue has ended, it has been given all the lists, put together so that each
is kept in its order; if one can tell from the events whose they are, those of a producer are
exactly its list; the reader was told the words for the places from zero on, and as long as there
are enough words these places themselves; and it sees the words for how many attempts were refused
and for how many events there are. However far the producers and the reader are, they can come to
this end. -/
theorem interleaves_of_ended (requested : Nat) (h : requested ≤ Inbox.capacityLimit)
    (names : List String) (hnames : names.Nodup) (work : String → List (Job ε)) :
    ∃ q : Inbox String ε, Inbox.ofCapacity requested = .ok q ∧ ∀ moves : List Move,
      let c := (start q names work).run moves
      let delivered := c.ledger.delivered.map (·.2.event)
      let total := (names.flatMap work).length
      (c.ended = true →
        Interleaves names (fun p => (work p).map (·.event)) delivered ∧
        (∀ owner : ε → String, (∀ p ∈ names, ∀ job ∈ work p, owner job.event = p) →
          ∀ p ∈ names, delivered.filter (owner · == p) = (work p).map (·.event)) ∧
        c.ledger.delivered.map (·.1) = (List.range total).map UInt64.ofNat ∧
        (total ≤ UInt64.size → c.ledger.delivered.map (·.1.toNat) = List.range total) ∧
        ∀ name, (c.exchange.step (.counts name)).2 =
          .counted none (some (.ofNat c.refused)) (some (.ofNat total))) ∧
      ∃ more, ((start q names work).run (moves ++ more)).ended = true := by
  refine ⟨_, Inbox.ofCapacity_of_le h, ?_⟩
  intro moves c delivered total
  have hpos : 0 < max requested Inbox.leastCapacity :=
    Nat.lt_of_lt_of_le (by decide) (Nat.le_max_right _ _)
  have hheld : Held names (shares names work) c := (held_start hpos names work).run moves
  refine ⟨?_, ?_⟩
  · intro hended
    have hinterleaves : Interleaves names (fun p => (work p).map (·.event)) delivered :=
      hheld.interleaves hended
    -- as many were delivered as there are jobs, since the lists are put together from those
    have htotal : c.ledger.delivered.length = total := by
      have hlength := (hinterleaves.perm hnames).length_eq
      rw [← List.map_flatMap, List.length_map, List.length_map] at hlength
      exact hlength
    refine ⟨hinterleaves, ?_, ?_, ?_, ?_⟩
    · intro owner howner p hp
      refine hinterleaves.filter_eq ?_ hp
      intro t ht e he
      obtain ⟨job, hjob, rfl⟩ := List.mem_map.1 he
      exact howner t ht job hjob
    · rw [hheld.agrees.numbered, htotal]
    · rw [← htotal]
      exact hheld.agrees.numbered_toNat
    · intro name
      simp [Exchange.step, hheld.reader, (hheld.finished hended).2, hheld.refusals,
        hheld.agrees.refusals, hheld.agrees.received, htotal]
  · obtain ⟨more, hmore⟩ := hheld.exists_ended
    refine ⟨more, ?_⟩
    rw [run_append]
    exact hmore

/-- One producer sends nine events to a queue with eight places and is refused twice; the other
waits with its only event and comes ninth, since the first place to become free is kept for it. -/
theorem interleaves_of_ended_two_producers :
    let work : String → List (Job Nat) := fun p =>
      if p = "a" then (List.range 9).map fun i => ⟨.insisting, i⟩ else [⟨.patient, 100⟩]
    let moves : List Move :=
      List.replicate 9 (.attempt "a" ⟨0⟩) ++ [.attempt "b" ⟨1⟩, .receive, .attempt "a" ⟨2⟩,
        .attempt "b" ⟨3⟩, .receive, .attempt "a" ⟨4⟩, .leave "a", .leave "b"] ++
        List.replicate 9 .receive
    0 ≤ Inbox.capacityLimit ∧ ["a", "b"].Nodup ∧
      ∃ q : Inbox String Nat, Inbox.ofCapacity 0 = .ok q ∧
        let c := (start q ["a", "b"] work).run moves
        c.ended = true ∧ c.ledger.delivered.map (·.2.event) = List.range 8 ++ [100, 8] ∧
          c.ledger.delivered.map (·.1.toNat) = List.range 10 ∧
          (c.exchange.step (.counts "a")).2 = .counted none (some 2) (some 10) := by
  intro work moves
  have hnames : ["a", "b"].Nodup := by decide
  obtain ⟨q, hq, hrun⟩ :=
    interleaves_of_ended 0 (by decide) ["a", "b"] hnames work
  refine ⟨by decide, hnames, q, hq, ?_⟩
  cases hq
  have hended : ((start (.withPlaces 8) ["a", "b"] work).run moves).ended = true := by
    decide +kernel
  have hrefused : UInt64.ofNat ((start (.withPlaces 8) ["a", "b"] work).run moves).refused = 2 := by
    decide +kernel
  obtain ⟨-, -, -, hplaces, hcounts⟩ := (hrun moves).1 hended
  refine ⟨hended, by decide +kernel, hplaces (by decide), ?_⟩
  rw [← hrefused]
  exact hcounts "a"

end Crowd

end TurnTaking
