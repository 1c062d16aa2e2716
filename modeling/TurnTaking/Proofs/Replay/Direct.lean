import TurnTaking.Proofs.Conversation.Likeness
import TurnTaking.Replay
/-!
# Handling a script directly

What a replay is measured by: a conversation that handles the entries of a script one after the
other, each at its time, and is then finished. No queue, no clock and no sender has a part in it.

The main statements are `directOutput_origin`, that its output does not depend on when the clock
began, and `received_direct`, that it counts as many events as the script has entries.
-/

namespace TurnTaking

open Time

/-- An entry as it arrives if the script begins at `origin`. -/
def ScriptEntry.arrival (origin : Instant) (e : ScriptEntry) : Arrival Event :=
  ⟨origin.later (.ofMillis e.atMs.toNat), e.event⟩

namespace Replay

/-- The events of some arrivals, each with its time. -/
def timed (script : List (Arrival Event)) : List (Event × Instant) :=
  script.map fun a => (a.event, a.time)

/-- A conversation that has handled the entries of a script one after the other and is then
finished. -/
def direct (settings : Settings) (origin : Instant) (entries : List ScriptEntry) :
    FinalReport × Conversation Unit :=
  ((Conversation.fresh settings .willing ()).handleAll Conversation.standardRoutes
    (timed (entries.map (·.arrival origin)))).finish 0

/-- What there is to print of a conversation that was handled directly. -/
def directOutput (settings : Settings) (origin : Instant) (entries : List ScriptEntry) :
    List OutputLine :=
  let (report, c) := direct settings origin entries
  c.context.journal.records.map .record ++
    [.host (c.context.outbox.host.count .interrupt) (c.context.outbox.host.count .clearTurn),
      .account report]

/-- The state after the events of a script, before any errand has run. -/
def heard (settings : Settings) (script : List (Arrival Event)) : Context :=
  (Context.fresh settings .willing).hearAll (timed script)

theorem heard_snoc (settings : Settings) (script : List (Arrival Event)) (a : Arrival Event) :
    heard settings (script ++ [a]) = (heard settings script).hear a.event a.time := by
  unfold heard timed
  rw [List.map_append]
  exact Context.hearAll_snoc _ _ _ _

theorem willing_heard (settings : Settings) (script : List (Arrival Event)) :
    (heard settings script).outbox.Willing :=
  Context.willing_hearAll Outbox.willing_fresh _

/-- What there is to print once all the errands of a conversation have run: what it has reported,
with its usage last, what it has asked for, and its account. -/
def closing (c : Context) : List OutputLine :=
  (c.report (.ofUsage c.usage)).journal.records.map .record ++
    [.host (c.outbox.asked .interrupt) (c.outbox.asked .clearTurn), .account ⟨c.usage, c.tally, 0⟩]

theorem closing_like {c d : Context} (h : c.Like d) : closing c = closing d := by
  unfold closing Context.report Context.tally
  rw [h.usage, h.journal, h.tally, h.asked, h.asked]

theorem closing_later (c : Context) (d : Duration) : closing (c.later d) = closing c :=
  rfl

/-! ## The direct output -/

theorem direct_eq (settings : Settings) (origin : Instant) (entries : List ScriptEntry) :
    direct settings origin entries =
      (⟨heard settings (entries.map (·.arrival origin)), ()⟩ : Conversation Unit).finish 0 := by
  unfold direct
  rw [Conversation.handleAll_standardRoutes]
  rfl

/-- Finishing runs the errands that are left, and changes nothing else. -/
theorem finish_outbox {o : Outbox} (h : o.Willing) :
    o.finish.tally = o.tally ∧ ∀ a, o.finish.host.count a = o.asked a := by
  unfold Outbox.finish
  rw [h.openGate]
  have hopen : { o with gateOpen := true }.Willing := ⟨h.mode, h.held⟩
  have hasked := hopen.asked_settle
  rw [hopen.settle] at hasked ⊢
  refine ⟨rfl, ?_⟩
  intro a
  rw [← Outbox.asked_of_ready_eq_nil rfl a]
  exact hasked a

theorem directOutput_eq (settings : Settings) (origin : Instant) (entries : List ScriptEntry) :
    directOutput settings origin entries =
      closing (heard settings (entries.map (·.arrival origin))) := by
  obtain ⟨htally, hcount⟩ := finish_outbox (willing_heard settings (entries.map (·.arrival origin)))
  unfold directOutput
  rw [direct_eq]
  simp only [Conversation.finish, Conversation.conclude, closing, Context.report, Context.tally,
    htally, hcount]

/-- The direct output does not depend on when the clock began. -/
theorem directOutput_origin (settings : Settings) (origin : Instant)
    (entries : List ScriptEntry) :
    directOutput settings origin entries = directOutput settings .zero entries := by
  -- every entry arrives as much later as the clock began later
  have hscript : timed (entries.map (·.arrival origin)) =
      (timed (entries.map (·.arrival .zero))).map fun e => (e.1, e.2.later ⟨origin.nanos⟩) := by
    unfold timed
    simp only [List.map_map]
    refine List.map_congr_left ?_
    intro e _
    simp [ScriptEntry.arrival, Instant.later, Instant.zero, Nat.add_comm]
  have hlater : heard settings (entries.map (·.arrival origin)) =
      (heard settings (entries.map (·.arrival .zero))).later ⟨origin.nanos⟩ := by
    unfold heard
    rw [hscript, ← Context.hearAll_later]
    rfl
  rw [directOutput_eq, directOutput_eq, hlater, closing_later]

/-! ## What it has counted -/

theorem received_hear (c : Context) (e : Event) (now : Instant) :
    (c.hear e now).tally.received = c.tally.received + 1 := by
  cases e with
  | phaseChange p => rfl
  | metrics m => rfl
  | utterance u =>
    show (((c.count .event).arbitrate u now).1).tally.received = _
    rcases (c.count .event).arbitrate_cases u now with ⟨-, heq⟩ | ⟨decision, -, heq⟩
    · rw [heq]
      rfl
    · rw [heq]
      show ((c.count .event).outbox.dispatch decision.action).tally.received = _
      rw [Outbox.tally_dispatch]
      cases decision.action <;> rfl

theorem received_hearAll (c : Context) (es : List (Event × Instant)) :
    (c.hearAll es).tally.received = c.tally.received + UInt64.ofNat es.length := by
  induction es generalizing c with
  | nil => simp
  | cons e es ih =>
    show ((c.hear e.1 e.2).hearAll es).tally.received = _
    rw [ih, received_hear, List.length_cons, UInt64.ofNat_add, UInt64.add_assoc,
      UInt64.add_comm 1]
    rfl

/-- The account of a script that is handled directly: nothing was refused, and as many events were
received as there are entries. -/
theorem received_direct (settings : Settings) (origin : Instant) (entries : List ScriptEntry) :
    (direct settings origin entries).1.refusals = 0 ∧
      (direct settings origin entries).1.tally.received = UInt64.ofNat entries.length := by
  refine ⟨rfl, ?_⟩
  obtain ⟨htally, -⟩ := finish_outbox (willing_heard settings (entries.map (·.arrival origin)))
  rw [direct_eq]
  show (heard settings _).outbox.finish.tally.received = _
  rw [htally]
  show (heard settings _).tally.received = _
  unfold heard
  rw [received_hearAll]
  simp [timed, Context.fresh, Context.tally, Outbox.fresh, Tally.zero]

end Replay

end TurnTaking
