import TurnTaking.Tally
/-!
# What the counters tell of the actions

The counters of a conversation tell how many actions were called for, how many of each kind, and how
many requests failed, each as a word (`Tally.Tells`). Every entry keeps to this, whichever it is.
-/

namespace TurnTaking

namespace Tally

/-- The counters tell these actions, and how many requests have failed. -/
structure Tells (t : Tally) (acts : List Action) (failed : Nat) : Prop where
  classified : t.classified = UInt64.ofNat acts.length
  interrupts : t.interrupts = UInt64.ofNat (acts.count .interrupt)
  clears : t.clears = UInt64.ofNat (acts.count .clearTurn)
  noOps : t.noOps = UInt64.ofNat (acts.count .noOp)
  failures : t.failures = UInt64.ofNat failed

theorem tells_zero : zero.Tells [] 0 :=
  ⟨rfl, rfl, rfl, rfl, rfl⟩

variable {t : Tally} {acts : List Action} {failed : Nat}

theorem Tells.event (h : t.Tells acts failed) : (t.count .event).Tells acts failed :=
  ⟨h.classified, h.interrupts, h.clears, h.noOps, h.failures⟩

theorem Tells.skipped (h : t.Tells acts failed) : (t.count .skipped).Tells acts failed :=
  ⟨h.classified, h.interrupts, h.clears, h.noOps, h.failures⟩

theorem Tells.action (h : t.Tells acts failed) (a : Action) :
    (t.count (.action a)).Tells (acts ++ [a]) failed := by
  cases a <;> constructor <;>
    simp [count, h.classified, h.interrupts, h.clears, h.noOps, h.failures, List.count_append,
      UInt64.ofNat_add]

theorem Tells.failure (h : t.Tells acts failed) : (t.count .failure).Tells acts (failed + 1) where
  classified := h.classified
  interrupts := h.interrupts
  clears := h.clears
  noOps := h.noOps
  failures := by
    rw [UInt64.ofNat_add, ← h.failures]
    rfl

/-- Every action is of one of the three kinds. -/
theorem length_eq_counts (acts : List Action) :
    acts.length = acts.count .interrupt + acts.count .clearTurn + acts.count .noOp := by
  induction acts with
  | nil => rfl
  | cons a acts ih =>
    rw [List.length_cons, ih]
    cases a <;> simp <;> omega

/-- As long as fewer actions have been called for than there are words, no more requests are counted
as failed than there are interruptions and clearings. -/
theorem Tells.failures_le (h : t.Tells acts failed) (hacts : acts.length < UInt64.size)
    (hfailed : failed ≤ acts.count .interrupt + acts.count .clearTurn) :
    t.failures.toNat ≤ t.interrupts.toNat + t.clears.toNat := by
  have hlength := length_eq_counts acts
  have hinterrupts : acts.count .interrupt < UInt64.size := by omega
  have hclears : acts.count .clearTurn < UInt64.size := by omega
  have hfailures : failed < UInt64.size := by omega
  rw [h.failures, h.interrupts, h.clears, UInt64.toNat_ofNat_of_lt' hfailures,
    UInt64.toNat_ofNat_of_lt' hinterrupts, UInt64.toNat_ofNat_of_lt' hclears]
  exact hfailed

end Tally

end TurnTaking
