import Mathlib.Data.List.Perm.Basic
import TurnTaking.Outbox
/-!
# Requests to a willing host

A willing host takes every request and has no gate. So an action that makes a request has asked the
host for something, whether its errand has run yet or not, and in whatever order the errands run:
what has been asked for (`asked`) changes by new actions alone, and once no errand is left it is
what the host has taken.
-/

namespace TurnTaking

namespace Outbox

/-- How often the request of an action has been made: taken by the host, or on its way. -/
def asked (o : Outbox) (a : Action) : Nat :=
  o.host.count a + (o.ready.filter (·.request.action == a)).length

/-- The host is willing and nobody waits at its gate. -/
structure Willing (o : Outbox) : Prop where
  mode : o.host.mode = .willing
  held : o.held = 0

/-- The outbox after one of the errands that can run has run; errands run in any order. -/
def runErrand (o : Outbox) (i : Nat) : Outbox :=
  match o.ready[i]? with
  | some e => { o with ready := o.ready.eraseIdx i }.proceed e
  | none => o

/-- The outbox after its host has taken some requests. -/
def take (o : Outbox) (rs : List Request) : Outbox :=
  { o with host := { o.host with calls := o.host.calls ++ rs } }

@[simp] theorem host_count_append (h : Host) (rs : List Request) (a : Action) :
    { h with calls := h.calls ++ rs }.count a = h.count a + (rs.filter (·.action == a)).length := by
  simp [Host.count]

theorem willing_fresh : (fresh .willing).Willing :=
  ⟨rfl, rfl⟩

/-! ## Actions -/

theorem Willing.count {o : Outbox} (h : o.Willing) (e : Tally.Entry) : (o.count e).Willing :=
  ⟨h.mode, h.held⟩

theorem Willing.dispatch {o : Outbox} (h : o.Willing) (a : Action) : (o.dispatch a).Willing := by
  unfold Outbox.dispatch
  cases a.request? with
  | none => exact h.count _
  | some r => exact ⟨h.mode, h.held⟩

theorem tally_dispatch (o : Outbox) (a : Action) :
    (o.dispatch a).tally = o.tally.count (.action a) := by
  unfold Outbox.dispatch
  cases a.request? <;> rfl

/-- An action asks the host for what it requests, and for nothing else. -/
theorem asked_dispatch (o : Outbox) (a b : Action) :
    (o.dispatch a).asked b = o.asked b + (a.request?.toList.filter (·.action == b)).length := by
  unfold Outbox.dispatch
  cases a.request? with
  | none => rfl
  | some r =>
    simp only [asked, List.filter_append, List.length_append]
    rw [← Nat.add_assoc]
    show o.asked b + _ = o.asked b + _
    by_cases hr : r.action = b
    · simp [hr]
    · simp [hr]

/-! ## Errands -/

/-- A willing host takes a request at once and refuses none. -/
theorem Willing.proceed {o : Outbox} (h : o.Willing) (e : Errand) :
    o.proceed e = o.take [e.request] := by
  -- a willing host has no gate
  have hgate : o.host.mode.gates e.request = false := by
    rw [h.mode]
    rfl
  have hcall : o.host.call e.request =
      ({ o.host with calls := o.host.calls ++ [e.request] }, none) := by
    simp [Host.call, h.mode, HostMode.takes, HostMode.refusal?]
  simp [Outbox.proceed, hgate, Outbox.deliver, hcall, take]

theorem Willing.take {o : Outbox} (h : o.Willing) (rs : List Request) : (o.take rs).Willing :=
  ⟨h.mode, h.held⟩

theorem Willing.foldl_proceed {o : Outbox} (h : o.Willing) (es : List Errand) :
    es.foldl Outbox.proceed o = o.take (es.map Errand.request) := by
  induction es generalizing o with
  | nil => simp [Outbox.take]
  | cons e es ih =>
    rw [List.foldl_cons, h.proceed, ih (h.take _)]
    simp [Outbox.take]

theorem Willing.settle {o : Outbox} (h : o.Willing) :
    o.settle = { o with ready := [] }.take (o.ready.map Errand.request) := by
  have hrest : { o with ready := [] }.Willing := ⟨h.mode, h.held⟩
  exact hrest.foldl_proceed o.ready

theorem Willing.runErrand_of_lt {o : Outbox} (h : o.Willing) {i : Nat} (hi : i < o.ready.length) :
    o.runErrand i = { o with ready := o.ready.eraseIdx i }.take [o.ready[i].request] := by
  have hrest : { o with ready := o.ready.eraseIdx i }.Willing := ⟨h.mode, h.held⟩
  unfold Outbox.runErrand
  rw [List.getElem?_eq_getElem hi]
  exact hrest.proceed _

theorem runErrand_of_le {o : Outbox} {i : Nat} (hi : o.ready.length ≤ i) : o.runErrand i = o := by
  unfold runErrand
  rw [List.getElem?_eq_none hi]

/-- An errand that runs changes neither what was asked for nor the counters. -/
theorem Willing.runErrand {o : Outbox} (h : o.Willing) (i : Nat) :
    (o.runErrand i).Willing ∧ (o.runErrand i).tally = o.tally ∧
      ∀ a, (o.runErrand i).asked a = o.asked a := by
  by_cases hi : i < o.ready.length
  · rw [h.runErrand_of_lt hi]
    refine ⟨⟨h.mode, h.held⟩, rfl, ?_⟩
    intro a
    -- the errand that runs and the others are together those that could run
    have hperm := ((List.getElem_cons_eraseIdx_perm hi).filter
      (·.request.action == a)).length_eq
    show { o.host with calls := o.host.calls ++ [o.ready[i].request] }.count a +
      ((o.ready.eraseIdx i).filter (·.request.action == a)).length = _
    rw [host_count_append, asked, ← hperm]
    by_cases he : o.ready[i].request.action = a
    · simp [he]
      omega
    · simp [he]
  · rw [runErrand_of_le (Nat.le_of_not_lt hi)]
    exact ⟨h, rfl, fun _ => rfl⟩

theorem Willing.length_runErrand {o : Outbox} (h : o.Willing) {i : Nat}
    (hi : i < o.ready.length) : (o.runErrand i).ready.length + 1 = o.ready.length := by
  rw [h.runErrand_of_lt hi]
  show (o.ready.eraseIdx i).length + 1 = _
  rw [List.length_eraseIdx_of_lt hi]
  omega

/-- Once all errands have run the host has taken what was asked for. -/
theorem Willing.asked_settle {o : Outbox} (h : o.Willing) (a : Action) :
    o.settle.asked a = o.asked a := by
  rw [h.settle]
  show { o.host with calls := o.host.calls ++ o.ready.map Errand.request }.count a + 0 = _
  rw [host_count_append, asked, List.filter_map, List.length_map]
  rfl

/-- A gate that nobody waits at makes no difference. -/
theorem Willing.openGate {o : Outbox} (h : o.Willing) :
    o.openGate = { o with gateOpen := true } := by
  simp [Outbox.openGate, Outbox.letPass, h.held]

theorem asked_of_ready_eq_nil {o : Outbox} (h : o.ready = []) (a : Action) :
    o.asked a = o.host.count a := by
  rw [asked, h]
  rfl

end Outbox

end TurnTaking
