import Mathlib.Data.List.Induction
import TurnTaking.Proofs.Exchange.Ledger
/-!
# Events that are overtaken

An event carries the time at which its sender began to send it. A sender that has to wait may be
granted a place and not come back at once; another sender that begins later can then be accepted
before it, and the reader is given the later time first.

Here it is shown that this is the only way in which times can go back. If senders begin one after
the other, the times that the reader is given never decrease just if no event is accepted that was
overtaken while it waited (`delivered_rising_iff`). In particular they never decrease if, while
somebody waits, only the one who has waited longest is accepted.

That they can go back is `delivered_not_rising`.
-/

namespace TurnTaking

open Time

namespace Exchange

variable {ε : Type}

/-! ## One more step -/

theorem run_snoc (x : Exchange ε) (ss : List (Step ε)) (s : Step ε) :
    x.run (ss ++ [s]) =
      (((x.run ss).1.step s).1, (x.run ss).2 ++ [((x.run ss).1.step s).2]) := by
  induction ss generalizing x with
  | nil => rfl
  | cons t ss ih =>
    show (((x.step t).1.run (ss ++ [s])).1, (x.step t).2 :: ((x.step t).1.run (ss ++ [s])).2) = _
    rw [ih]
    rfl

theorem length_replies (x : Exchange ε) (ss : List (Step ε)) :
    (x.run ss).2.length = ss.length := by
  induction ss generalizing x with
  | nil => rfl
  | cons s ss ih => exact congrArg (· + 1) (ih _)

theorem zip_replies_snoc (x : Exchange ε) (ss : List (Step ε)) (s : Step ε) :
    (ss ++ [s]).zip (x.run (ss ++ [s])).2 =
      ss.zip (x.run ss).2 ++ [(s, ((x.run ss).1.step s).2)] := by
  rw [run_snoc, List.zip_append (length_replies x ss).symm]
  rfl

theorem ledgerOf_snoc (x : Exchange ε) (ss : List (Step ε)) (s : Step ε) :
    ledgerOf x (ss ++ [s]) = (ledgerOf x ss).enter s ((x.run ss).1.step s).2 := by
  rw [ledgerOf, zip_replies_snoc, Ledger.enterAll, List.foldl_append]
  rfl

/-! ## When senders begin -/

/-- The time at which a sender begins to send, if the step is such a beginning. Somebody without a
sender sends nothing. -/
def callTime : Step ε → Reply ε → Option Instant
  | _, .noSender => none
  | .send _ a, _ => some a.time
  | .fill _ time _, _ => some time
  | .sendWaiting _ _ a, _ => some a.time
  | _, _ => none

/-- The times at which senders begin in a run, in order. -/
def callTimes (x : Exchange ε) (ss : List (Step ε)) : List Instant :=
  (ss.zip (x.run ss).2).filterMap fun e => callTime e.1 e.2

/-- Times that never decrease. -/
def Rising (times : List Instant) : Prop :=
  times.Pairwise fun t u => t.nanos ≤ u.nanos

instance (times : List Instant) : Decidable (Rising times) :=
  inferInstanceAs (Decidable (times.Pairwise _))

theorem callTimes_snoc (x : Exchange ε) (ss : List (Step ε)) (s : Step ε) :
    callTimes x (ss ++ [s]) = callTimes x ss ++ (callTime s ((x.run ss).1.step s).2).toList := by
  rw [callTimes, zip_replies_snoc, List.filterMap_append]
  cases h : callTime s ((x.run ss).1.step s).2 <;> simp [callTimes, h]

/-- Whoever begins last begins at the latest time. -/
theorem le_of_rising_snoc {x : Exchange ε} {ss : List (Step ε)} {s : Step ε}
    (h : Rising (callTimes x (ss ++ [s]))) {t u : Instant}
    (ht : callTime s ((x.run ss).1.step s).2 = some t) (hu : u ∈ callTimes x (ss ++ [s])) :
    u.nanos ≤ t.nanos := by
  rw [callTimes_snoc, ht, Option.toList_some] at h hu
  rcases List.mem_append.1 hu with hu | hu
  · exact (List.pairwise_append.1 h).2.2 u hu t (List.mem_singleton_self t)
  · exact Nat.le_of_eq (congrArg Instant.nanos (List.mem_singleton.1 hu))

theorem rising_of_snoc {x : Exchange ε} {ss : List (Step ε)} {s : Step ε}
    (h : Rising (callTimes x (ss ++ [s]))) : Rising (callTimes x ss) := by
  rw [callTimes_snoc] at h
  exact (List.pairwise_append.1 h).1

theorem rising_of_append {x : Exchange ε} {ss more : List (Step ε)}
    (h : Rising (callTimes x (ss ++ more))) : Rising (callTimes x ss) := by
  induction more using List.reverseRecOn with
  | nil => simpa using h
  | append_singleton more s ih =>
    rw [← List.append_assoc] at h
    exact ih (rising_of_snoc h)

/-! ## What a step accepts, and who waits after it -/

theorem Ledger.accepted_turnAway (l : Ledger ε) (r : Refusal) :
    (l.turnAway r).accepted = l.accepted := by
  cases r <;> rfl

/-- A step accepts events that begin with it, or the one that has waited under the ticket that it
looks after. -/
theorem Ledger.Agrees.accepted_effect {l : Ledger ε} {x : Exchange ε} (h : l.Agrees x.inbox)
    {s : Step ε} {q : Inbox String ε} {r : Reply ε} (he : Effect x s q r) :
    ∃ as, (l.enter s r).accepted = l.accepted ++ as ∧
      ((∀ a ∈ as, callTime s r = some a.time) ∨
        ∃ ticket b, s = .poll ticket ∧ as = [b] ∧ (ticket, b) ∈ x.inbox.bookings) := by
  -- most steps accept nothing
  have hnone : ∀ {t : Step ε} {p : Reply ε}, (l.enter t p).accepted = l.accepted →
      ∃ as, (l.enter t p).accepted = l.accepted ++ as ∧
        ((∀ a ∈ as, callTime t p = some a.time) ∨
          ∃ ticket b, t = .poll ticket ∧ as = [b] ∧ (ticket, b) ∈ x.inbox.bookings) := by
    intro t p heq
    refine ⟨[], ?_, Or.inl ?_⟩
    · rw [heq, List.append_nil]
    · intro a ha
      cases ha
  cases he with
  | aside hs => exact hnone (by rw [enter_of_aside l hs])
  | close hs => exact hnone (by rw [enter_of_aside l hs])
  | noSender => exact hnone (by rw [enter_noSender])
  | @send name a =>
    cases (x.inbox.send a).2 with
    | queued => exact ⟨[a], rfl, Or.inl (by simp [callTime, replyTo])⟩
    | waiting => exact hnone rfl
    | refused r => exact hnone (accepted_turnAway l r)
  | @fill name time events =>
    obtain ⟨sent, r, e, hfilled⟩ := fillFrom_eq_filled x.inbox time events
    rw [hfilled]
    refine ⟨burst time events 0 sent, accepted_turnAway _ _, Or.inl ?_⟩
    intro a ha
    obtain ⟨i, -, rfl⟩ := List.mem_map.1 ha
    rfl
  | @sendOrLeave name a =>
    cases (x.inbox.sendOrLeave a).2 with
    | queued => exact ⟨[a], rfl, Or.inl (by simp [callTime, replyTo])⟩
    | waiting => exact hnone rfl
    | refused r => exact hnone rfl
  | @sendWaiting name ticket a =>
    cases (x.inbox.sendWaiting ticket a).2 with
    | queued => exact ⟨[a], rfl, Or.inl (by simp [callTime, replyTo])⟩
    | waiting => exact hnone rfl
    | refused r => exact hnone rfl
  | @poll ticket _ o a hp =>
    have hmem := (Inbox.bookings_of_poll hp).1
    cases o with
    | queued =>
      -- what the ledger remembers under the ticket is the event that waits under it
      refine ⟨[a], ?_, Or.inr ⟨ticket, a, rfl, rfl, hmem⟩⟩
      show l.accepted ++ (l.delayed.lookup ticket).toList = _
      rw [h.delayed ticket a hmem]
      rfl
    | waiting => exact hnone rfl
    | refused r => exact hnone rfl
  | nobodyWaits => exact hnone rfl
  | abandon => exact hnone rfl
  | receive => exact hnone rfl
  | unread hr => exact hnone (by rcases hr with rfl | rfl | rfl <;> rfl)

/-- Those who wait after a step waited before it, in the same order, and behind them whoever begins
to wait with it. -/
theorem bookings_effect {x : Exchange ε} {s : Step ε} {q : Inbox String ε} {r : Reply ε}
    (he : Effect x s q r) :
    ∃ kept new, q.bookings = kept ++ new ∧ kept.Sublist x.inbox.bookings ∧
      ∀ b ∈ new, callTime s r = some b.2.time := by
  have hsame : ∀ {p : Inbox String ε}, p.bookings.Sublist x.inbox.bookings →
      ∃ kept new, p.bookings = kept ++ new ∧ kept.Sublist x.inbox.bookings ∧
        ∀ b ∈ new, callTime s r = some b.2.time :=
    fun hp => ⟨_, [], by simp, hp, by simp⟩
  cases he with
  | aside => exact hsame (List.Sublist.refl _)
  | close => exact hsame (List.Sublist.refl _)
  | noSender => exact hsame (List.Sublist.refl _)
  | send => exact hsame (by rw [Inbox.bookings_send])
  | fill =>
    refine hsame ?_
    cases hc : x.inbox.closed with
    | true => rw [fillFrom_of_closed hc]
    | false =>
      rw [fillFrom_of_open hc _ _ 0 (Nat.lt_succ_self _)]
      exact List.Sublist.refl _
  | sendOrLeave => exact hsame (by rw [Inbox.bookings_sendOrLeave])
  | @sendWaiting name ticket a =>
    have hbookings := x.inbox.bookings_sendWaiting ticket a
    split at hbookings
    · rename_i hout
      refine ⟨_, _, hbookings, List.eraseP_sublist, ?_⟩
      intro b hb
      rw [List.mem_singleton.1 hb, hout]
      rfl
    · exact hsame (by rw [hbookings])
  | poll hp =>
    refine hsame ?_
    rw [(Inbox.bookings_of_poll hp).2]
    split
    · exact List.Sublist.refl _
    · exact List.eraseP_sublist
  | nobodyWaits => exact hsame (List.Sublist.refl _)
  | abandon =>
    refine hsame ?_
    rw [Inbox.bookings_abandon]
    exact List.eraseP_sublist
  | receive hr => exact hsame (by rw [Inbox.bookings_of_receive hr])
  | unread => exact hsame (List.Sublist.refl _)

/-! ## Every accepted time is that of a beginning -/

/-- The run begins with a fresh queue. -/
def Fresh (x₀ : Exchange ε) : Prop :=
  ∃ n, x₀.inbox = .withPlaces n

theorem Fresh.agrees {x₀ : Exchange ε} (hx₀ : Fresh x₀) (ss : List (Step ε)) :
    (ledgerOf x₀ ss).Agrees (x₀.run ss).1.inbox := by
  obtain ⟨n, hn⟩ := hx₀
  exact (run_of_fresh hn ss).2.2.2

theorem Fresh.accepted_snoc {x₀ : Exchange ε} (hx₀ : Fresh x₀) (ss : List (Step ε))
    (s : Step ε) :
    ∃ as, (ledgerOf x₀ (ss ++ [s])).accepted = (ledgerOf x₀ ss).accepted ++ as ∧
      ((∀ a ∈ as, callTime s ((x₀.run ss).1.step s).2 = some a.time) ∨
        ∃ ticket b, s = .poll ticket ∧ as = [b] ∧
          (ticket, b) ∈ (x₀.run ss).1.inbox.bookings) := by
  rw [ledgerOf_snoc]
  exact (hx₀.agrees ss).accepted_effect (step_effect _ s)

theorem bookings_snoc (x₀ : Exchange ε) (ss : List (Step ε)) (s : Step ε) :
    ∃ kept new, (x₀.run (ss ++ [s])).1.inbox.bookings = kept ++ new ∧
      kept.Sublist (x₀.run ss).1.inbox.bookings ∧
      ∀ b ∈ new, callTime s ((x₀.run ss).1.step s).2 = some b.2.time := by
  rw [run_snoc]
  exact bookings_effect (step_effect _ s)

theorem Fresh.distinct {x₀ : Exchange ε} (hx₀ : Fresh x₀) {ss : List (Step ε)} :
    (x₀.run ss).1.inbox.Distinct := by
  obtain ⟨n, hn⟩ := hx₀
  exact (run_of_fresh hn ss).2.1

/-- Whoever waits has begun to send at the time that its event carries, and so has everyone whose
event was accepted. -/
theorem Fresh.mem_callTimes {x₀ : Exchange ε} (hx₀ : Fresh x₀) (ss : List (Step ε)) :
    (∀ a ∈ (ledgerOf x₀ ss).accepted, a.time ∈ callTimes x₀ ss) ∧
      ∀ b ∈ (x₀.run ss).1.inbox.bookings, b.2.time ∈ callTimes x₀ ss := by
  induction ss using List.reverseRecOn with
  | nil =>
    obtain ⟨n, hn⟩ := hx₀
    have hnobody : (x₀.run []).1.inbox.bookings = [] := by
      show x₀.inbox.bookings = []
      rw [hn]
      rfl
    rw [hnobody]
    constructor
    · intro a ha
      cases ha
    · intro b hb
      cases hb
  | append_singleton ss s ih =>
    obtain ⟨haccepted, hbooked⟩ := ih
    obtain ⟨as, has, hnew⟩ := hx₀.accepted_snoc ss s
    obtain ⟨kept, new, hsplit, hkept, hjoined⟩ := bookings_snoc x₀ ss s
    rw [callTimes_snoc, has, hsplit]
    constructor
    · intro a ha
      rcases List.mem_append.1 ha with ha | ha
      · exact List.mem_append_left _ (haccepted a ha)
      · rcases hnew with hnow | ⟨ticket, b, -, rfl, hmem⟩
        · rw [hnow a ha]
          exact List.mem_append_right _ (List.mem_singleton_self _)
        · -- the event of one who has waited
          rw [List.mem_singleton.1 ha]
          exact List.mem_append_left _ (hbooked _ hmem)
    · intro b hb
      rcases List.mem_append.1 hb with hb | hb
      · exact List.mem_append_left _ (hbooked b (hkept.subset hb))
      · rw [hjoined b hb]
        exact List.mem_append_right _ (List.mem_singleton_self _)

/-! ## Overtaking -/

/-- The event at a place among those accepted was accepted while another one waited. -/
def AcceptedBeside (x₀ : Exchange ε) (ss : List (Step ε)) (place : Nat) (ticket : String)
    (b : Arrival ε) : Prop :=
  ∃ before s after, ss = before ++ s :: after ∧
    (ledgerOf x₀ before).accepted.length ≤ place ∧
    place < (ledgerOf x₀ (before ++ [s])).accepted.length ∧
    (ticket, b) ∈ (x₀.run before).1.inbox.bookings

/-- One event overtook another: it has the later time, and it was accepted while the other, which was
accepted after it, waited. Both are told by their places among those accepted. -/
def Overtakes (x₀ : Exchange ε) (ss : List (Step ε)) (j k : Nat) : Prop :=
  j < k ∧ ∃ a b ticket, (ledgerOf x₀ ss).accepted[j]? = some a ∧
    (ledgerOf x₀ ss).accepted[k]? = some b ∧ b.time.nanos < a.time.nanos ∧
    AcceptedBeside x₀ ss j ticket b

theorem AcceptedBeside.snoc {x₀ : Exchange ε} {ss : List (Step ε)} {place : Nat}
    {ticket : String} {b : Arrival ε} (h : AcceptedBeside x₀ ss place ticket b) (s : Step ε) :
    AcceptedBeside x₀ (ss ++ [s]) place ticket b := by
  obtain ⟨before, t, after, rfl, hplace, hlt, hmem⟩ := h
  exact ⟨before, t, after ++ [s], by simp, hplace, hlt, hmem⟩

/-- If senders begin one after the other, then whoever waits has waited since before any event of a
later time was accepted. -/
theorem Fresh.acceptedBeside_of_waiting {x₀ : Exchange ε} (hx₀ : Fresh x₀)
    {ss : List (Step ε)} (hrising : Rising (callTimes x₀ ss)) {ticket : String} {b : Arrival ε}
    (hb : (ticket, b) ∈ (x₀.run ss).1.inbox.bookings) {j : Nat} {a : Arrival ε}
    (ha : (ledgerOf x₀ ss).accepted[j]? = some a) (hlt : b.time.nanos < a.time.nanos) :
    AcceptedBeside x₀ ss j ticket b := by
  induction ss using List.reverseRecOn with
  | nil => simp [ledgerOf, Ledger.enterAll, Ledger.empty] at ha
  | append_singleton ss s ih =>
    obtain ⟨as, has, -⟩ := hx₀.accepted_snoc ss s
    obtain ⟨kept, new, hsplit, hkept, hjoined⟩ := bookings_snoc x₀ ss s
    rw [hsplit] at hb
    rcases List.mem_append.1 hb with hold | hnew
    · have hwaits : (ticket, b) ∈ (x₀.run ss).1.inbox.bookings := hkept.subset hold
      by_cases hj : j < (ledgerOf x₀ ss).accepted.length
      · rw [has, List.getElem?_append_left hj] at ha
        exact (ih (rising_of_snoc hrising) hwaits ha).snoc s
      · -- it is this step that accepts the event of the later time
        obtain ⟨hj', -⟩ := List.getElem?_eq_some_iff.1 ha
        exact ⟨ss, s, [], rfl, Nat.le_of_not_lt hj, hj', hwaits⟩
    · -- whoever begins to wait with this step begins at the latest time of all
      have hmem := (hx₀.mem_callTimes (ss ++ [s])).1 a (List.mem_of_getElem? ha)
      have hle : a.time.nanos ≤ b.time.nanos :=
        le_of_rising_snoc hrising (hjoined _ hnew) hmem
      omega

/-- If senders begin one after the other, times go back only where an event was overtaken. -/
theorem Fresh.overtakes_of_lt {x₀ : Exchange ε} (hx₀ : Fresh x₀) {ss : List (Step ε)}
    (hrising : Rising (callTimes x₀ ss)) {j k : Nat} {a b : Arrival ε} (hjk : j < k)
    (ha : (ledgerOf x₀ ss).accepted[j]? = some a) (hb : (ledgerOf x₀ ss).accepted[k]? = some b)
    (hlt : b.time.nanos < a.time.nanos) : Overtakes x₀ ss j k := by
  refine ⟨hjk, a, b, ?_⟩
  suffices h : ∃ ticket, AcceptedBeside x₀ ss j ticket b by
    obtain ⟨ticket, hbeside⟩ := h
    exact ⟨ticket, ha, hb, hlt, hbeside⟩
  induction ss using List.reverseRecOn with
  | nil => simp [ledgerOf, Ledger.enterAll, Ledger.empty] at ha
  | append_singleton ss s ih =>
    obtain ⟨as, has, hnew⟩ := hx₀.accepted_snoc ss s
    by_cases hk : k < (ledgerOf x₀ ss).accepted.length
    · rw [has, List.getElem?_append_left hk] at hb
      rw [has, List.getElem?_append_left (by omega)] at ha
      obtain ⟨ticket, hbeside⟩ := ih (rising_of_snoc hrising) ha hb
      exact ⟨ticket, hbeside.snoc s⟩
    · have hmem := (hx₀.mem_callTimes (ss ++ [s])).1 a (List.mem_of_getElem? ha)
      rw [has, List.getElem?_append_right (Nat.le_of_not_lt hk)] at hb
      rcases hnew with hnow | ⟨ticket, c, -, rfl, hc⟩
      · -- an event that begins with this step has the latest time of all
        have hle := le_of_rising_snoc hrising (hnow b (List.mem_of_getElem? hb)) hmem
        omega
      · -- the event has waited, and the other one was accepted before this step
        obtain ⟨hlast, rfl⟩ := List.getElem?_eq_some_iff.1 hb
        rw [List.length_singleton] at hlast
        rw [has, List.getElem?_append_left (by omega)] at ha
        rw [List.getElem_singleton] at hlt ⊢
        exact ⟨ticket,
          (hx₀.acceptedBeside_of_waiting (rising_of_snoc hrising) hc ha hlt).snoc s⟩

/-! ## Those who wait come back in their order -/

/-- Whenever an event is accepted while somebody waits, it is that of the one who has waited
longest. -/
def Prompt (x₀ : Exchange ε) (ss : List (Step ε)) : Prop :=
  ∀ before s after, ss = before ++ s :: after →
    (ledgerOf x₀ (before ++ [s])).accepted ≠ (ledgerOf x₀ before).accepted →
    ∀ first rest, (x₀.run before).1.inbox.bookings = first :: rest → s = .poll first.1

/-- If senders begin one after the other, those who wait do so in the order of their times. -/
theorem Fresh.rising_bookings {x₀ : Exchange ε} (hx₀ : Fresh x₀) {ss : List (Step ε)}
    (hrising : Rising (callTimes x₀ ss)) :
    Rising ((x₀.run ss).1.inbox.bookings.map (·.2.time)) := by
  induction ss using List.reverseRecOn with
  | nil =>
    obtain ⟨n, hn⟩ := hx₀
    show Rising (x₀.inbox.bookings.map _)
    rw [hn]
    exact List.Pairwise.nil
  | append_singleton ss s ih =>
    obtain ⟨kept, new, hsplit, hkept, hjoined⟩ := bookings_snoc x₀ ss s
    have hbooked := (hx₀.mem_callTimes (ss ++ [s])).2
    rw [hsplit] at hbooked ⊢
    -- whoever begins to wait with this step begins at the latest time of all
    have hlast : ∀ b ∈ kept ++ new, ∀ c ∈ new, b.2.time.nanos ≤ c.2.time.nanos := by
      intro b hb c hc
      exact le_of_rising_snoc hrising (hjoined c hc) (hbooked b hb)
    rw [List.map_append, Rising, List.pairwise_append]
    refine ⟨(ih (rising_of_snoc hrising)).sublist (hkept.map _), ?_, ?_⟩
    · rw [List.pairwise_map]
      refine List.pairwise_of_forall_mem_list ?_
      intro b hb c hc
      exact hlast b (List.mem_append_right _ hb) c hc
    · intro t ht u hu
      obtain ⟨b, hb, rfl⟩ := List.mem_map.1 ht
      obtain ⟨c, hc, rfl⟩ := List.mem_map.1 hu
      exact hlast b (List.mem_append_left _ hb) c hc

theorem Fresh.accepted_prefix {x₀ : Exchange ε} (hx₀ : Fresh x₀) (ss more : List (Step ε)) :
    (ledgerOf x₀ ss).accepted <+: (ledgerOf x₀ (ss ++ more)).accepted := by
  induction more using List.reverseRecOn with
  | nil => exact ⟨[], by rw [List.append_nil, List.append_nil]⟩
  | append_singleton more s ih =>
    obtain ⟨as, has, -⟩ := hx₀.accepted_snoc (ss ++ more) s
    rw [← List.append_assoc, has]
    exact ih.trans (List.prefix_append _ _)

/-- If those who wait come back in their order, nobody is overtaken. -/
theorem Prompt.not_overtakes {x₀ : Exchange ε} (hx₀ : Fresh x₀) {ss : List (Step ε)}
    (hprompt : Prompt x₀ ss) (hrising : Rising (callTimes x₀ ss)) (j k : Nat) :
    ¬ Overtakes x₀ ss j k := by
  rintro ⟨-, a, b, ticket, ha, -, hlt, before, s, after, rfl, hplace, hlen, hb⟩
  obtain ⟨as, has, hnew⟩ := hx₀.accepted_snoc before s
  -- the event that overtakes is one that this step accepts
  have hmem : a ∈ as := by
    obtain ⟨later, hlater⟩ := hx₀.accepted_prefix (before ++ [s]) after
    rw [List.append_assoc, List.singleton_append] at hlater
    rw [← hlater, List.getElem?_append_left hlen, has, List.getElem?_append_right hplace] at ha
    exact List.mem_of_getElem? ha
  obtain ⟨first, rest, hfirst⟩ := List.exists_cons_of_ne_nil (List.ne_nil_of_mem hb)
  have hpoll : s = .poll first.1 := by
    refine hprompt before s after rfl ?_ first rest hfirst
    intro heq
    rw [heq] at hlen
    omega
  subst hpoll
  rcases hnew with hnow | ⟨t, c, ht, rfl, hc⟩
  · -- whoever comes back does not begin
    have hnone := hnow a hmem
    cases hr : ((x₀.run before).1.step (.poll first.1)).2 <;> rw [hr] at hnone <;> cases hnone
  · -- so it is the event of the one who has waited longest, who began no later than the others
    cases ht
    have hfirst' : (first.1, c) = first := by
      refine List.inj_on_of_nodup_map hx₀.distinct hc ?_ rfl
      rw [hfirst]
      exact List.mem_cons_self
    have hrisen := hx₀.rising_bookings (rising_of_append hrising)
    rw [hfirst, List.map_cons, Rising, List.pairwise_cons] at hrisen
    rw [hfirst] at hb
    rw [List.mem_singleton.1 hmem] at hlt
    rcases List.mem_cons.1 hb with hb | hb
    · rw [← hb] at hfirst'
      cases hfirst'
      omega
    · have hle := hrisen.1 _ (List.mem_map_of_mem hb)
      rw [← hfirst'] at hle
      exact absurd hlt (Nat.not_lt.2 hle)

/-! ## The times that the reader is given -/

/-- The times of the events that the reader was given, in order. -/
def Ledger.deliveredTimes (l : Ledger ε) : List Instant :=
  l.delivered.map (·.2.time)

theorem Ledger.Agrees.getElem?_accepted {l : Ledger ε} {q : Inbox String ε} (h : l.Agrees q)
    {i : Nat} (hi : i < l.delivered.length) :
    l.accepted[i]? = some l.delivered[i].2 := by
  rw [← h.order, List.getElem?_append_left (by simpa using hi)]
  simp [hi]

/-- For every capacity that can be had and every sequence of steps in which senders begin one after
the other: the times that the reader is given never decrease just if none of the events that it is
given was overtaken while it waited. They never decrease if nothing is accepted, while somebody
waits, but the event of the one who has waited longest. -/
theorem delivered_rising_iff (requested : Nat) (h : requested ≤ Inbox.capacityLimit) :
    ∃ q : Inbox String ε, Inbox.ofCapacity requested = .ok q ∧
      ∀ x₀, x₀ = withHub q ∨ x₀ = bare q → ∀ ss : List (Step ε), Rising (callTimes x₀ ss) →
        let l := ledgerOf x₀ ss
        (Rising l.deliveredTimes ↔
          ∀ j k, k < l.delivered.length → ¬ Overtakes x₀ ss j k) ∧
        (Prompt x₀ ss → Rising l.deliveredTimes) := by
  refine ⟨_, Inbox.ofCapacity_of_le h, ?_⟩
  intro x₀ hx₀ ss hrising l
  have hfresh : Fresh x₀ := by
    rcases hx₀ with rfl | rfl <;> exact ⟨_, rfl⟩
  have hagrees : l.Agrees (x₀.run ss).1.inbox := hfresh.agrees ss
  have hiff : Rising l.deliveredTimes ↔
      ∀ j k, k < l.delivered.length → ¬ Overtakes x₀ ss j k := by
    rw [Ledger.deliveredTimes, Rising, List.pairwise_map, List.pairwise_iff_getElem]
    constructor
    · rintro hsorted j k hk ⟨hjk, a, b, ticket, ha, hb, hlt, -⟩
      have hle := hsorted j k (by omega) hk hjk
      rw [hagrees.getElem?_accepted (by omega), Option.some.injEq] at ha
      rw [hagrees.getElem?_accepted hk, Option.some.injEq] at hb
      rw [ha, hb] at hle
      omega
    · intro hnever j k hj hk hjk
      refine Nat.le_of_not_lt ?_
      intro hlt
      exact hnever j k hk (hfresh.overtakes_of_lt hrising hjk (hagrees.getElem?_accepted hj)
        (hagrees.getElem?_accepted hk) hlt)
  refine ⟨hiff, ?_⟩
  intro hprompt
  exact hiff.2 fun j k _ => hprompt.not_overtakes hfresh hrising j k

/-- Eight events fill the queue and a ninth waits from the time one on. Two events are read: the
first place goes to the one who waits, the second is free, and an event that comes at the time two
takes it before the one who waits is back. The reader is given the time two before the time one. -/
theorem delivered_not_rising :
    let ss : List (Step Nat) :=
      [.fill "main" ⟨0⟩ id, .sendWaiting "main" (some "w") ⟨⟨1⟩, 100⟩, .receive, .receive,
        .send "main" ⟨⟨2⟩, 200⟩, .poll "w"] ++ List.replicate 8 .receive
    ∃ q : Inbox String Nat, Inbox.ofCapacity 8 = .ok q ∧
      callTimes (bare q) ss = [⟨0⟩, ⟨1⟩, ⟨2⟩] ∧ Rising (callTimes (bare q) ss) ∧
        (ledgerOf (bare q) ss).delivered =
          ((List.range 8).map fun i => (.ofNat i, ⟨⟨0⟩, i⟩)) ++ [(8, ⟨⟨2⟩, 200⟩), (9, ⟨⟨1⟩, 100⟩)] ∧
        ¬ Rising (ledgerOf (bare q) ss).deliveredTimes :=
  ⟨_, rfl, by decide +kernel, by decide +kernel, by decide +kernel, by decide +kernel⟩

/-- In the same run somebody was overtaken, since nothing else can have made the times go back. -/
theorem delivered_rising_iff_overtaken :
    let ss : List (Step Nat) :=
      [.fill "main" ⟨0⟩ id, .sendWaiting "main" (some "w") ⟨⟨1⟩, 100⟩, .receive, .receive,
        .send "main" ⟨⟨2⟩, 200⟩, .poll "w"] ++ List.replicate 8 .receive
    8 ≤ Inbox.capacityLimit ∧
      ∃ q : Inbox String Nat, Inbox.ofCapacity 8 = .ok q ∧ Rising (callTimes (bare q) ss) ∧
        ∃ j k, k < (ledgerOf (bare q) ss).delivered.length ∧ Overtakes (bare q) ss j k := by
  intro ss
  obtain ⟨q, hq, hrun⟩ := delivered_rising_iff (ε := Nat) 8 (by decide)
  refine ⟨by decide, q, hq, ?_⟩
  cases hq
  have hrising : Rising (callTimes (bare (.withPlaces 8)) ss) := by
    decide +kernel
  have hback : ¬ Rising (ledgerOf (bare (.withPlaces 8)) ss).deliveredTimes := by
    decide +kernel
  refine ⟨hrising, ?_⟩
  have hovertaken := mt (hrun _ (Or.inr rfl) ss hrising).1.2 hback
  simpa only [not_forall, not_not, exists_prop] using hovertaken

end Exchange

end TurnTaking
