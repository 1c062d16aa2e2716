import Mathlib.Data.List.Perm.Basic
import TurnTaking.Proofs.Outbox.Willing
import TurnTaking.Proofs.Tally.Actions
/-!
# An outbox and a host of any kind

A host may receive the calls of the errands that can run in any order, take as long as it likes over
each of them, answer them in any order, and refuse any of them. What becomes of each request is kept
in a log, in which a request is told by its number: its place in the order in which requests are
made.

The main statement is `accounted_run`: after any actions, whatever the host has done in between, every
request is in flight or answered; it has reached the host at most once, as what it is, and once it
is answered just once; and the counters tell the actions and the refusals.
-/

namespace TurnTaking

/-- What a host of any kind can do next. -/
inductive Dealing where
  /-- It receives the call of one of the errands that can run. -/
  | call (i : Nat)
  /-- It answers one of the calls that it has received and not answered. -/
  | answer (i : Nat) (refusal : Option HostError)
deriving DecidableEq, Repr

namespace Outbox

/-- The outbox after a host has received the call of an errand, which waits for its answer. -/
def call (o : Outbox) (i : Nat) : Outbox :=
  { o with ready := o.ready.eraseIdx i, held := o.held + 1 }

/-- The outbox after a host has answered a call. A refusal is counted. -/
def answer (o : Outbox) (refusal : Option HostError) : Outbox :=
  let back := { o with held := o.held - 1 }
  if refusal.isSome then back.count .failure else back

end Outbox

/-- What has become of the requests of an outbox. -/
structure Log where
  /-- The requests that were made, in order. -/
  made : List Request
  /-- The numbers of the errands that can run, in the order of the outbox. -/
  pending : List Nat
  /-- The numbers of the requests that reached the host, and what it was asked for, in order. -/
  received : List (Nat × Request)
  /-- The numbers of the requests that reached the host and are not answered. -/
  underWay : List Nat
  /-- The numbers of the requests that are answered, in order, each with its refusal. -/
  answered : List (Nat × Option HostError)
deriving DecidableEq, Repr

namespace Log

/-- The log without requests. -/
def empty : Log :=
  ⟨[], [], [], [], []⟩

/-- The log with one more request. -/
def make (l : Log) (r : Request) : Log :=
  { l with made := l.made ++ [r], pending := l.pending ++ [l.made.length] }

/-- The log after an action. -/
def dispatch (l : Log) (a : Action) : Log :=
  match a.request? with
  | some r => l.make r
  | none => l

/-- How many requests were refused. -/
def refused (l : Log) : Nat :=
  l.answered.countP (·.2.isSome)

end Log

/-- An outbox, and the log of its requests. -/
structure Traffic where
  outbox : Outbox
  log : Log
deriving DecidableEq, Repr

namespace Traffic

/-- An outbox that has had no errands. -/
def fresh (mode : HostMode) : Traffic :=
  ⟨.fresh mode, .empty⟩

/-- The traffic after one more entry in the counters. -/
def count (t : Traffic) (e : Tally.Entry) : Traffic :=
  { t with outbox := t.outbox.count e }

/-- The traffic with an errand for one more request. -/
def make (t : Traffic) (r : Request) : Traffic :=
  ⟨{ t.outbox with ready := t.outbox.ready ++ [⟨r, false⟩] }, t.log.make r⟩

/-- The traffic after an action. -/
def dispatch (t : Traffic) (a : Action) : Traffic :=
  ⟨t.outbox.dispatch a, t.log.dispatch a⟩

/-- The traffic after the host has received the call of the errand `e`, which is the `i`-th of those
that can run and has the number `n`. -/
def receive (t : Traffic) (i n : Nat) (e : Errand) : Traffic :=
  ⟨t.outbox.call i,
    { t.log with
      pending := t.log.pending.eraseIdx i
      received := t.log.received ++ [(n, e.request)]
      underWay := t.log.underWay ++ [n] }⟩

/-- The traffic after the host has answered the `i`-th of the calls under way, which has the
number `n`. -/
def conclude (t : Traffic) (i n : Nat) (refusal : Option HostError) : Traffic :=
  ⟨t.outbox.answer refusal,
    { t.log with
      underWay := t.log.underWay.eraseIdx i
      answered := t.log.answered ++ [(n, refusal)] }⟩

/-- The traffic after the host has done something. -/
def deal (t : Traffic) : Dealing → Traffic
  | .call i =>
    match t.outbox.ready[i]?, t.log.pending[i]? with
    | some e, some n => t.receive i n e
    | _, _ => t
  | .answer i refusal =>
    match t.log.underWay[i]? with
    | some n => t.conclude i n refusal
    | none => t

/-- What can happen to an outbox at a host of any kind. -/
inductive Step where
  | dispatch (a : Action)
  | deal (d : Dealing)
deriving DecidableEq, Repr

/-- The traffic after a step. -/
def step (t : Traffic) : Step → Traffic
  | .dispatch a => t.dispatch a
  | .deal d => t.deal d

/-- The traffic after some steps. -/
def run (t : Traffic) (ss : List Step) : Traffic :=
  ss.foldl step t

/-- The actions among some steps, in order. -/
def actions (ss : List Step) : List Action :=
  ss.filterMap fun
    | .dispatch a => some a
    | .deal _ => none

/-! ## Numbers and errands agree -/

/-- The log and the outbox tell of the same errands, and every request has one place in the log. -/
structure Sound (t : Traffic) : Prop where
  pending : t.log.pending.map (t.log.made[·]?) = t.outbox.ready.map fun e => some e.request
  waiting : t.log.underWay.length = t.outbox.held
  numbered : (t.log.pending ++ t.log.received.map (·.1)).Perm (List.range t.log.made.length)
  answered : (t.log.underWay ++ t.log.answered.map (·.1)).Perm (t.log.received.map (·.1))
  own : ∀ c ∈ t.log.received, t.log.made[c.1]? = some c.2

theorem sound_fresh (mode : HostMode) : (fresh mode).Sound where
  pending := rfl
  waiting := rfl
  numbered := List.Perm.refl _
  answered := List.Perm.refl _
  own c hc := by cases hc

theorem Sound.count {t : Traffic} (h : t.Sound) (e : Tally.Entry) : (t.count e).Sound :=
  ⟨h.pending, h.waiting, h.numbered, h.answered, h.own⟩

theorem Sound.lt_of_mem_pending {t : Traffic} (h : t.Sound) {n : Nat}
    (hn : n ∈ t.log.pending) : n < t.log.made.length :=
  List.mem_range.1 (h.numbered.subset (List.mem_append_left _ hn))

/-- A new request takes the next number. -/
theorem Sound.make {t : Traffic} (h : t.Sound) (r : Request) : (t.make r).Sound where
  pending := by
    show (t.log.pending ++ [t.log.made.length]).map ((t.log.made ++ [r])[·]?) =
      (t.outbox.ready ++ [(⟨r, false⟩ : Errand)]).map _
    rw [List.map_append, List.map_append, ← h.pending]
    congr 1
    · refine List.map_congr_left ?_
      intro n hn
      exact List.getElem?_append_left (h.lt_of_mem_pending hn)
    · simp
  waiting := h.waiting
  numbered := by
    show (t.log.pending ++ [t.log.made.length] ++ t.log.received.map (·.1)).Perm
      (List.range (t.log.made ++ [r]).length)
    rw [List.length_append, List.length_singleton, List.range_succ, List.append_assoc]
    refine (List.Perm.append_left _ List.perm_append_comm).trans ?_
    rw [← List.append_assoc]
    exact h.numbered.append_right _
  answered := h.answered
  own c hc := by
    show (t.log.made ++ [r])[c.1]? = some c.2
    obtain ⟨hlt, -⟩ := List.getElem?_eq_some_iff.1 (h.own c hc)
    rw [List.getElem?_append_left hlt]
    exact h.own c hc

theorem Sound.dispatch {t : Traffic} (h : t.Sound) (a : Action) : (t.dispatch a).Sound := by
  unfold Traffic.dispatch Outbox.dispatch Log.dispatch
  cases a.request? with
  | none => exact h.count (.action a)
  | some r => exact (h.count (.action a)).make r

/-- What is taken out at a place and put at the end is still there. -/
theorem perm_eraseIdx_snoc {l : List Nat} {i n : Nat} (h : l[i]? = some n) :
    (l.eraseIdx i ++ [n]).Perm l := by
  obtain ⟨hi, rfl⟩ := List.getElem?_eq_some_iff.1 h
  exact List.perm_append_comm.trans (List.getElem_cons_eraseIdx_perm hi)

/-- The errand at a place has the request that was made under the number at that place. -/
theorem Sound.made_pending {t : Traffic} (h : t.Sound) {i n : Nat} {e : Errand}
    (he : t.outbox.ready[i]? = some e) (hn : t.log.pending[i]? = some n) :
    t.log.made[n]? = some e.request := by
  have hrequest := congrArg (·[i]?) h.pending
  simp only [List.getElem?_map, he, hn, Option.map_some, Option.some.injEq] at hrequest
  exact hrequest

theorem Sound.receive {t : Traffic} (h : t.Sound) {i n : Nat} {e : Errand}
    (he : t.outbox.ready[i]? = some e) (hn : t.log.pending[i]? = some n) :
    (t.receive i n e).Sound where
  pending := by
    show (t.log.pending.eraseIdx i).map (t.log.made[·]?) = (t.outbox.ready.eraseIdx i).map _
    rw [← List.eraseIdx_map, ← List.eraseIdx_map, h.pending]
  waiting := by
    show (t.log.underWay ++ [n]).length = t.outbox.held + 1
    rw [List.length_append, List.length_singleton, h.waiting]
  numbered := by
    show (t.log.pending.eraseIdx i ++ (t.log.received ++ [(n, e.request)]).map (·.1)).Perm _
    rw [List.map_append, List.map_singleton]
    refine (List.Perm.append_left _ List.perm_append_comm).trans ?_
    rw [← List.append_assoc]
    exact ((perm_eraseIdx_snoc hn).append_right _).trans h.numbered
  answered := by
    show (t.log.underWay ++ [n] ++ t.log.answered.map (·.1)).Perm
      ((t.log.received ++ [(n, e.request)]).map (·.1))
    rw [List.append_assoc, List.map_append, List.map_singleton]
    refine (List.Perm.append_left _ List.perm_append_comm).trans ?_
    rw [← List.append_assoc]
    exact h.answered.append_right _
  own c hc := by
    rcases List.mem_append.1 hc with hc | hc
    · exact h.own c hc
    · rw [List.mem_singleton.1 hc]
      exact h.made_pending he hn

theorem Sound.conclude {t : Traffic} (h : t.Sound) {i n : Nat} (hn : t.log.underWay[i]? = some n)
    (refusal : Option HostError) : (t.conclude i n refusal).Sound := by
  have hwaiting : (t.log.underWay.eraseIdx i).length = t.outbox.held - 1 := by
    obtain ⟨hi, -⟩ := List.getElem?_eq_some_iff.1 hn
    rw [List.length_eraseIdx_of_lt hi, h.waiting]
  have hanswered : (t.log.underWay.eraseIdx i ++
      (t.log.answered ++ [(n, refusal)]).map (·.1)).Perm (t.log.received.map (·.1)) := by
    rw [List.map_append, List.map_singleton]
    refine (List.Perm.append_left _ List.perm_append_comm).trans ?_
    rw [← List.append_assoc]
    exact ((perm_eraseIdx_snoc hn).append_right _).trans h.answered
  unfold Traffic.conclude Outbox.answer
  cases refusal with
  | none => exact ⟨h.pending, hwaiting, h.numbered, hanswered, h.own⟩
  | some error => exact ⟨h.pending, hwaiting, h.numbered, hanswered, h.own⟩

theorem Sound.deal {t : Traffic} (h : t.Sound) (d : Dealing) : (t.deal d).Sound := by
  cases d with
  | call i =>
    simp only [Traffic.deal]
    split
    · rename_i he hn
      exact h.receive he hn
    · exact h
  | answer i refusal =>
    simp only [Traffic.deal]
    split
    · rename_i hn
      exact h.conclude hn refusal
    · exact h

/-! ## What the host does counts refusals alone -/

theorem tells_receive {t : Traffic} {acts : List Action}
    (h : t.outbox.tally.Tells acts t.log.refused) (i n : Nat) (e : Errand) :
    (t.receive i n e).outbox.tally.Tells acts (t.receive i n e).log.refused :=
  h

theorem tells_conclude {t : Traffic} {acts : List Action}
    (h : t.outbox.tally.Tells acts t.log.refused) (i n : Nat) (refusal : Option HostError) :
    (t.conclude i n refusal).outbox.tally.Tells acts (t.conclude i n refusal).log.refused := by
  have hrefused : (t.conclude i n refusal).log.refused =
      t.log.refused + if refusal.isSome then 1 else 0 := by
    simp [Traffic.conclude, Log.refused, List.countP_append, List.countP_singleton]
  rw [hrefused]
  cases refusal with
  | none => exact h
  | some error => exact h.failure

theorem tells_deal {t : Traffic} {acts : List Action}
    (h : t.outbox.tally.Tells acts t.log.refused) (d : Dealing) :
    (t.deal d).outbox.tally.Tells acts (t.deal d).log.refused := by
  cases d with
  | call i =>
    simp only [deal]
    split
    · exact tells_receive h _ _ _
    · exact h
  | answer i refusal =>
    simp only [deal]
    split
    · exact tells_conclude h _ _ _
    · exact h

theorem made_deal (t : Traffic) (d : Dealing) : (t.deal d).log.made = t.log.made := by
  cases d <;> simp only [deal] <;> split <;> rfl

theorem made_dispatch (t : Traffic) (a : Action) :
    (t.dispatch a).log.made = t.log.made ++ a.request?.toList := by
  unfold dispatch Log.dispatch
  cases a.request? <;> simp [Log.make]

theorem refused_dispatch (t : Traffic) (a : Action) :
    (t.dispatch a).log.refused = t.log.refused := by
  unfold dispatch Log.dispatch
  cases a.request? <;> rfl

/-! ## The account of a run -/

/-- The account of the requests that some actions have made. -/
structure Accounted (t : Traffic) (acts : List Action) : Prop where
  /-- Interruptions and clearings make requests, and nothing else does. -/
  made : t.log.made = acts.filterMap (·.request?)
  /-- Every request is in flight or answered. -/
  inFlight : acts.count .interrupt + acts.count .clearTurn =
    t.outbox.inFlight + t.log.answered.length
  /-- No request reaches the host twice. -/
  once : (t.log.received.map (·.1)).Nodup
  /-- The host is asked for what was requested. -/
  own : ∀ c ∈ t.log.received, t.log.made[c.1]? = some c.2
  /-- A request that is answered has reached the host, and is answered once. -/
  answered : (∀ a ∈ t.log.answered, ∃ r, (a.1, r) ∈ t.log.received) ∧
    (t.log.answered.map (·.1)).Nodup
  /-- The counters tell the actions and the refusals. -/
  counted : t.outbox.tally.Tells acts t.log.refused
  /-- No more requests are refused than were made. -/
  bounded : t.log.refused ≤ acts.count .interrupt + acts.count .clearTurn
  /-- As long as the counters have not started again, they show this too. -/
  shown : acts.length < UInt64.size →
    t.outbox.tally.failures.toNat ≤ t.outbox.tally.interrupts.toNat + t.outbox.tally.clears.toNat
  /-- Once nothing is in flight the host has received the requests that were made, in some order,
  and has answered each. -/
  drained : t.outbox.inFlight = 0 →
    (t.log.received.map (·.2)).Perm t.log.made ∧
      (t.log.answered.map (·.1)).Perm (t.log.received.map (·.1))

theorem length_requests (acts : List Action) :
    (acts.filterMap (·.request?)).length = acts.count .interrupt + acts.count .clearTurn := by
  induction acts with
  | nil => rfl
  | cons a acts ih =>
    cases a with
    | interrupt =>
      show (acts.filterMap (·.request?)).length + 1 = _
      rw [ih, List.count_cons_self, List.count_cons_of_ne (by decide)]
      omega
    | clearTurn =>
      show (acts.filterMap (·.request?)).length + 1 = _
      rw [ih, List.count_cons_self, List.count_cons_of_ne (by decide)]
      omega
    | noOp =>
      show (acts.filterMap (·.request?)).length = _
      rw [ih, List.count_cons_of_ne (by decide), List.count_cons_of_ne (by decide)]

theorem Sound.nodup_received {t : Traffic} (h : t.Sound) : (t.log.received.map (·.1)).Nodup :=
  (List.nodup_append.1 (h.numbered.nodup_iff.2 List.nodup_range)).2.1

theorem Sound.nodup_answered {t : Traffic} (h : t.Sound) : (t.log.answered.map (·.1)).Nodup :=
  (List.nodup_append.1 (h.answered.nodup_iff.2 h.nodup_received)).2.1

theorem Sound.inFlight {t : Traffic} (h : t.Sound) :
    t.log.made.length = t.outbox.inFlight + t.log.answered.length := by
  have hpending := congrArg List.length h.pending
  have hnumbered := h.numbered.length_eq
  have hanswered := h.answered.length_eq
  have hwaiting := h.waiting
  simp only [List.length_map, List.length_append, List.length_range] at hpending hnumbered hanswered
  rw [Outbox.inFlight]
  omega

/-- The numbers of requests stand for the requests. -/
theorem map_range_getElem? (made : List Request) :
    (List.range made.length).map (made[·]?) = made.map some := by
  refine List.ext_getElem (by simp) ?_
  intro i hi _
  have hlt : i < made.length := by simpa using hi
  simp [hlt]

theorem Sound.received_perm {t : Traffic} (h : t.Sound) (hdone : t.outbox.inFlight = 0) :
    (t.log.received.map (·.2)).Perm t.log.made := by
  have hready : t.outbox.ready = [] := by
    rw [Outbox.inFlight] at hdone
    exact List.eq_nil_of_length_eq_zero (by omega)
  have hpending : t.log.pending = [] := by
    have hmap := h.pending
    rw [hready] at hmap
    simpa using hmap
  -- each number stands for the request that was made under it
  have hlookup : t.log.received.map (fun c => some c.2) =
      (t.log.received.map (·.1)).map (t.log.made[·]?) := by
    rw [List.map_map]
    refine List.map_congr_left ?_
    intro c hc
    exact (h.own c hc).symm
  have hnumbered := h.numbered
  rw [hpending, List.nil_append] at hnumbered
  have hperm := hnumbered.map (t.log.made[·]?)
  rw [← hlookup, map_range_getElem?, ← Function.comp_def some, ← List.map_map] at hperm
  exact (List.map_perm_map_iff fun _ _ heq => Option.some.inj heq).1 hperm

theorem Sound.answered_perm {t : Traffic} (h : t.Sound) (hdone : t.outbox.inFlight = 0) :
    (t.log.answered.map (·.1)).Perm (t.log.received.map (·.1)) := by
  have hnobody : t.log.underWay = [] := by
    rw [Outbox.inFlight] at hdone
    refine List.eq_nil_of_length_eq_zero ?_
    rw [h.waiting]
    omega
  have hanswered := h.answered
  rw [hnobody, List.nil_append] at hanswered
  exact hanswered

theorem Sound.refused_le {t : Traffic} (h : t.Sound) {acts : List Action}
    (hmade : t.log.made = acts.filterMap (·.request?)) :
    t.log.refused ≤ acts.count .interrupt + acts.count .clearTurn := by
  have hanswered : t.log.refused ≤ t.log.answered.length := List.countP_le_length
  have hinFlight := h.inFlight
  rw [← length_requests, ← hmade]
  omega

theorem Sound.accounted {t : Traffic} (h : t.Sound) {acts : List Action}
    (hmade : t.log.made = acts.filterMap (·.request?))
    (hcounted : t.outbox.tally.Tells acts t.log.refused) : t.Accounted acts where
  made := hmade
  inFlight := by
    rw [← length_requests, ← hmade]
    exact h.inFlight
  once := h.nodup_received
  own := h.own
  answered := by
    refine ⟨?_, h.nodup_answered⟩
    intro a ha
    have hmem : a.1 ∈ t.log.received.map (·.1) :=
      h.answered.subset (List.mem_append_right _ (List.mem_map_of_mem ha))
    obtain ⟨⟨n, r⟩, hc, rfl⟩ := List.mem_map.1 hmem
    exact ⟨r, hc⟩
  counted := hcounted
  bounded := h.refused_le hmade
  shown hacts := hcounted.failures_le hacts (h.refused_le hmade)
  drained hdone := ⟨h.received_perm hdone, h.answered_perm hdone⟩

/-! ## Every run -/

/-- What a run keeps. -/
structure Kept (t : Traffic) (acts : List Action) : Prop where
  sound : t.Sound
  made : t.log.made = acts.filterMap (·.request?)
  counted : t.outbox.tally.Tells acts t.log.refused

variable {t : Traffic} {acts : List Action}

theorem kept_fresh (mode : HostMode) : (fresh mode).Kept [] :=
  ⟨sound_fresh mode, rfl, Tally.tells_zero⟩

theorem Kept.accounted (h : t.Kept acts) : t.Accounted acts :=
  h.sound.accounted h.made h.counted

theorem Kept.event (h : t.Kept acts) : (t.count .event).Kept acts :=
  ⟨h.sound.count _, h.made, h.counted.event⟩

theorem Kept.skipped (h : t.Kept acts) : (t.count .skipped).Kept acts :=
  ⟨h.sound.count _, h.made, h.counted.skipped⟩

theorem Kept.dispatch (h : t.Kept acts) (a : Action) : (t.dispatch a).Kept (acts ++ [a]) where
  sound := h.sound.dispatch a
  made := by
    rw [made_dispatch, h.made, List.filterMap_append]
    cases hr : a.request? <;> simp [hr]
  counted := by
    rw [refused_dispatch]
    show (t.outbox.dispatch a).tally.Tells _ _
    rw [Outbox.tally_dispatch]
    exact h.counted.action a

theorem Kept.deal (h : t.Kept acts) (d : Dealing) : (t.deal d).Kept acts where
  sound := h.sound.deal d
  made := (made_deal t d).trans h.made
  counted := tells_deal h.counted d

theorem Kept.run (h : t.Kept acts) (ss : List Step) : (t.run ss).Kept (acts ++ actions ss) := by
  induction ss generalizing t acts with
  | nil =>
    show t.Kept (acts ++ [])
    rw [List.append_nil]
    exact h
  | cons s ss ih =>
    cases s with
    | dispatch a =>
      have hrest := ih (h.dispatch a)
      rw [List.append_assoc] at hrest
      exact hrest
    | deal d => exact ih (h.deal d)

/-- After any actions, whatever a host of any kind has done in between, the requests are accounted
for. -/
theorem accounted_run (mode : HostMode) (ss : List Step) :
    ((fresh mode).run ss).Accounted (actions ss) := by
  have hkept := (kept_fresh mode).run ss
  rw [List.nil_append] at hkept
  exact hkept.accounted

end Traffic

end TurnTaking
