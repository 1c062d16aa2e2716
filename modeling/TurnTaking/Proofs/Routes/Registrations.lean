import TurnTaking.Routes
/-!
# Registrations

A table of handlers that is filled by one registration after the other. Its handlers of a kind are
those that were registered for the kind, in that order, so it does not matter how the registrations
of different kinds are mixed.

The main statement is `handlersFor_onAll`. From it come `onAll_congr`, by which a table is known
from the registrations for each kind, and with `size_onAll` also how many handlers there are.
-/

namespace TurnTaking

open Time

/-- A handler and the kind of events that it is registered for. -/
structure Registration (σ : Type) where
  kind : EventKind
  handler : Handler σ

/-- The registrations for a kind, in order. -/
def Registration.ofKind {σ : Type} (k : EventKind) (rs : List (Registration σ)) :
    List (Registration σ) :=
  rs.filter (·.kind = k)

namespace Routes

variable {σ : Type}

/-- The table after further registrations. -/
def onAll (r : Routes σ) (rs : List (Registration σ)) : Routes σ :=
  rs.foldl (fun r x => r.on x.kind x.handler) r

/-! ## What a table holds -/

theorem ext_handlersFor {r s : Routes σ} (h : ∀ k, r.handlersFor k = s.handlersFor k) : r = s := by
  cases r
  cases s
  exact congrArg mk (funext h)

/-- The handlers of a kind are those registered for it. -/
theorem handlersFor_onAll (r : Routes σ) (rs : List (Registration σ)) (k : EventKind) :
    (r.onAll rs).handlersFor k =
      r.handlersFor k ++ (Registration.ofKind k rs).map (·.handler) := by
  induction rs generalizing r with
  | nil => simp [onAll, Registration.ofKind]
  | cons x rs ih =>
    show ((r.on x.kind x.handler).onAll rs).handlersFor k = _
    rw [ih]
    by_cases hk : x.kind = k
    · subst hk
      simp [Registration.ofKind]
    · rw [handlersFor_on_of_ne r (Ne.symm hk), Registration.ofKind, Registration.ofKind,
        List.filter_cons_of_neg (by simpa using hk)]

/-- A table does not show how the registrations of different kinds were mixed. -/
theorem onAll_congr (r : Routes σ) {rs rs' : List (Registration σ)}
    (h : ∀ k, Registration.ofKind k rs = Registration.ofKind k rs') : r.onAll rs = r.onAll rs' := by
  apply ext_handlersFor
  intro k
  rw [handlersFor_onAll, handlersFor_onAll, h]

/-- Two registrations of different kinds may change places. -/
theorem onAll_swap (r : Routes σ) (before after : List (Registration σ)) {x y : Registration σ}
    (hne : x.kind ≠ y.kind) :
    r.onAll (before ++ x :: y :: after) = r.onAll (before ++ y :: x :: after) := by
  apply onAll_congr
  intro k
  by_cases hx : x.kind = k
  · have hy : y.kind ≠ k := fun hy => hne (hx.trans hy.symm)
    simp [Registration.ofKind, List.filter_cons, hy]
  · simp [Registration.ofKind, List.filter_cons, hx]

theorem count_on (r : Routes σ) (k l : EventKind) (h : Handler σ) :
    (r.on k h).count l = r.count l + if l = k then 1 else 0 := by
  by_cases hl : l = k
  · subst hl
    simp [count]
  · simp [count, handlersFor_on_of_ne r hl, hl]

theorem size_on (r : Routes σ) (k : EventKind) (h : Handler σ) : (r.on k h).size = r.size + 1 := by
  simp only [size, EventKind.all, List.foldr_cons, List.foldr_nil, count_on]
  cases k with
  | phaseChange => simp +arith
  | utterance => simp +arith
  | metrics => simp +arith

/-- Every registration adds one handler. -/
theorem size_onAll (r : Routes σ) (rs : List (Registration σ)) :
    (r.onAll rs).size = r.size + rs.length := by
  induction rs generalizing r with
  | nil => rfl
  | cons x rs ih =>
    show ((r.on x.kind x.handler).onAll rs).size = _
    rw [ih, size_on, List.length_cons]
    omega

theorem isEmpty_onAll_iff (rs : List (Registration σ)) :
    (empty.onAll rs).isEmpty = true ↔ rs = [] := by
  have hnone : (empty : Routes σ).size = 0 := rfl
  rw [isEmpty, size_onAll, hnone, Nat.zero_add, beq_iff_eq, List.length_eq_zero_iff]

end Routes

end TurnTaking
