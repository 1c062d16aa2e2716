import TurnTaking.Conversation
import TurnTaking.Proofs.Outbox.Willing
/-!
# Conversations that differ in their errands alone

Requests to the host run beside the conversation. Two conversations are alike if they differ only in
how far their errands have come: what they know, what they have reported and counted, and what they
have asked the host for is the same (`Context.Like`). An event keeps them alike, whatever errands
run in between, and once no errand is left the host has taken the same requests from both.

It is also shown that a conversation does not depend on when the clock began: if all times are
later by one duration, only the times that the floor remembers are (`Context.hear_later`).
-/

namespace TurnTaking

open Time

namespace Context

/-- What the standard handlers make of an event. -/
def hear (c : Context) (e : Event) (now : Instant) : Context :=
  match e with
  | .phaseChange p => (c.count .event).applyPhase p now
  | .utterance u => ((c.count .event).arbitrate u now).1
  | .metrics m => (c.count .event).collect m

/-- The state after a list of events that the standard handlers have handled. -/
def hearAll (c : Context) (es : List (Event × Instant)) : Context :=
  es.foldl (fun c e => c.hear e.1 e.2) c

/-- A transcript is passed over and counted as such, or what is decided about it is reported and
then dispatched. -/
theorem arbitrate_cases (c : Context) (u : Utterance) (now : Instant) :
    (c.moderator.judge u.transcript u.isFinal now = none ∧
        c.arbitrate u now = (c.count .skipped, none)) ∨
      ∃ d, c.moderator.judge u.transcript u.isFinal now = some d ∧
        c.arbitrate u now =
          ({ c.report (.ofTurn ⟨u.transcript, d.cues, d.action⟩) with
            outbox := c.outbox.dispatch d.action }, some d.action) := by
  unfold arbitrate
  cases c.moderator.judge u.transcript u.isFinal now with
  | none => exact Or.inl ⟨rfl, rfl⟩
  | some d => exact Or.inr ⟨d, rfl, rfl⟩

@[simp] theorem hearAll_nil (c : Context) : c.hearAll [] = c :=
  rfl

theorem hearAll_snoc (c : Context) (es : List (Event × Instant)) (e : Event) (now : Instant) :
    c.hearAll (es ++ [(e, now)]) = (c.hearAll es).hear e now := by
  rw [hearAll, List.foldl_append]
  rfl

end Context

namespace Conversation

variable {τ : Type}

theorem handle_standardRoutes (c : Conversation τ) (e : Event) (now : Instant) :
    c.handle standardRoutes e now = { c with context := c.context.hear e now } := by
  unfold handle Routes.dispatch
  rw [standardRoutes_handlersFor]
  cases e <;> rfl

theorem handleAll_standardRoutes (c : Conversation τ) (es : List (Event × Instant)) :
    c.handleAll standardRoutes es = { c with context := c.context.hearAll es } := by
  induction es generalizing c with
  | nil => rfl
  | cons e es ih =>
    show (c.handle standardRoutes e.1 e.2).handleAll standardRoutes es = _
    rw [handle_standardRoutes, ih]
    rfl

end Conversation

namespace Context

/-! ## Alike but for their errands -/

/-- Both know, have reported, have counted and have asked for the same. -/
structure Like (c d : Context) : Prop where
  moderator : c.moderator = d.moderator
  usage : c.usage = d.usage
  journal : c.journal = d.journal
  tally : c.outbox.tally = d.outbox.tally
  asked : ∀ a, c.outbox.asked a = d.outbox.asked a

theorem Like.refl (c : Context) : c.Like c :=
  ⟨rfl, rfl, rfl, rfl, fun _ => rfl⟩

variable {c d : Context}

theorem Like.trans {e : Context} (h : c.Like d) (h' : d.Like e) : c.Like e where
  moderator := h.moderator.trans h'.moderator
  usage := h.usage.trans h'.usage
  journal := h.journal.trans h'.journal
  tally := h.tally.trans h'.tally
  asked a := (h.asked a).trans (h'.asked a)

theorem Like.count (h : c.Like d) (e : Tally.Entry) : (c.count e).Like (d.count e) where
  moderator := h.moderator
  usage := h.usage
  journal := h.journal
  tally := congrArg (·.count e) h.tally
  asked := h.asked

theorem Like.report (h : c.Like d) (r : Record) : (c.report r).Like (d.report r) where
  moderator := h.moderator
  usage := h.usage
  journal := congrArg (·.add r) h.journal
  tally := h.tally
  asked := h.asked

theorem Like.applyPhase (h : c.Like d) (p : PhaseChange) (now : Instant) :
    (c.applyPhase p now).Like (d.applyPhase p now) := by
  unfold Context.applyPhase
  rw [h.moderator]
  have hfollowed : { c with moderator := d.moderator.follow p.old p.new now }.Like
      { d with moderator := d.moderator.follow p.old p.new now } :=
    { h with moderator := rfl }
  exact hfollowed.report _

theorem Like.dispatch (h : c.Like d) (a : Action) :
    { c with outbox := c.outbox.dispatch a }.Like { d with outbox := d.outbox.dispatch a } where
  moderator := h.moderator
  usage := h.usage
  journal := h.journal
  tally := by
    rw [Outbox.tally_dispatch, Outbox.tally_dispatch, h.tally]
  asked b := by
    rw [Outbox.asked_dispatch, Outbox.asked_dispatch, h.asked]

theorem Like.arbitrate (h : c.Like d) (u : Utterance) (now : Instant) :
    (c.arbitrate u now).1.Like (d.arbitrate u now).1 := by
  -- both moderators are the same, and so are their decisions
  unfold Context.arbitrate
  rw [h.moderator]
  cases d.moderator.judge u.transcript u.isFinal now with
  | none => exact h.count .skipped
  | some decision => exact (h.report _).dispatch decision.action

theorem Like.collect (h : c.Like d) (m : Metrics) : (c.collect m).Like (d.collect m) where
  moderator := h.moderator
  usage := congrArg (·.collect m) h.usage
  journal := h.journal
  tally := h.tally
  asked := h.asked

/-- Conversations that are alike are alike after an event. -/
theorem Like.hear (h : c.Like d) (e : Event) (now : Instant) :
    (c.hear e now).Like (d.hear e now) := by
  cases e with
  | phaseChange p => exact (h.count .event).applyPhase p now
  | utterance u => exact (h.count .event).arbitrate u now
  | metrics m => exact (h.count .event).collect m

/-- An event leaves a willing host willing. -/
theorem willing_hear (h : c.outbox.Willing) (e : Event) (now : Instant) :
    (c.hear e now).outbox.Willing := by
  cases e with
  | phaseChange p => exact h.count _
  | metrics m => exact h.count _
  | utterance u =>
    show (((c.count .event).arbitrate u now).1).outbox.Willing
    rcases (c.count .event).arbitrate_cases u now with ⟨-, heq⟩ | ⟨decision, -, heq⟩
    · rw [heq]
      exact (h.count _).count _
    · rw [heq]
      exact Outbox.Willing.dispatch (h.count _) _

theorem willing_hearAll (h : c.outbox.Willing) (es : List (Event × Instant)) :
    (c.hearAll es).outbox.Willing := by
  induction es generalizing c with
  | nil => exact h
  | cons e es ih => exact ih (willing_hear h e.1 e.2)

/-- A conversation stays alike to itself while its errands run. -/
theorem like_runErrand (h : c.outbox.Willing) (i : Nat) :
    { c with outbox := c.outbox.runErrand i }.Like c := by
  obtain ⟨-, htally, hasked⟩ := h.runErrand i
  exact ⟨rfl, rfl, rfl, htally, hasked⟩

theorem like_settle (h : c.outbox.Willing) : { c with outbox := c.outbox.settle }.Like c := by
  refine ⟨rfl, rfl, rfl, ?_, h.asked_settle⟩
  rw [h.settle]
  rfl

end Context

/-! ## Later by one duration -/

/-- The instant so much later, room or not. -/
def Time.Instant.later (t : Instant) (d : Duration) : Instant :=
  ⟨t.nanos + d.nanos⟩

/-- The floor as it would be if all had happened so much later. -/
def Floor.later (f : Floor) (d : Duration) : Floor :=
  { f with startedAt := f.startedAt.map (·.later d), endedAt := f.endedAt.map (·.later d) }

/-- The state as it would be if all had happened so much later. -/
def Context.later (c : Context) (d : Duration) : Context :=
  { c with moderator := { c.moderator with floor := c.moderator.floor.later d } }

theorem Time.Instant.since_later (now earlier : Instant) (d : Duration) :
    (now.later d).since (earlier.later d) = now.since earlier := by
  simp only [since, later, Nat.add_sub_add_right]

theorem Floor.change_later (f : Floor) (old new : Phase) (now : Instant) (d : Duration) :
    (f.later d).change old new (now.later d) = (f.change old new now).later d := by
  unfold Floor.change
  split
  · rfl
  · split <;> rfl

/-- What overlaps depends on the time that has passed alone. -/
theorem Floor.overlaps_later (f : Floor) (now : Instant) (grace d : Duration) :
    (f.later d).overlaps (now.later d) grace = f.overlaps now grace := by
  unfold Floor.overlaps Floor.sinceEnded Floor.later
  cases f.endedAt with
  | none => rfl
  | some ended => simp [Instant.since_later]

theorem Moderator.judge_later (m : Moderator) (transcript : String) (isFinal : Bool)
    (now : Instant) (d : Duration) :
    { m with floor := m.floor.later d }.judge transcript isFinal (now.later d) =
      m.judge transcript isFinal now := by
  unfold Moderator.judge Cues.ofTranscript
  simp only [Floor.overlaps_later]

namespace Context

theorem applyPhase_later (c : Context) (p : PhaseChange) (now : Instant) (d : Duration) :
    (c.later d).applyPhase p (now.later d) = (c.applyPhase p now).later d := by
  unfold applyPhase
  simp only [later, Moderator.follow, Floor.change_later]
  rfl

theorem arbitrate_later (c : Context) (u : Utterance) (now : Instant) (d : Duration) :
    ((c.later d).arbitrate u (now.later d)).1 = (c.arbitrate u now).1.later d := by
  unfold arbitrate
  have hjudge : (c.later d).moderator.judge u.transcript u.isFinal (now.later d) =
      c.moderator.judge u.transcript u.isFinal now :=
    c.moderator.judge_later u.transcript u.isFinal now d
  rw [hjudge]
  cases c.moderator.judge u.transcript u.isFinal now <;> rfl

/-- An event that comes so much later has the same effect so much later. -/
theorem hear_later (c : Context) (e : Event) (now : Instant) (d : Duration) :
    (c.later d).hear e (now.later d) = (c.hear e now).later d := by
  cases e with
  | phaseChange p => exact applyPhase_later (c.count .event) p now d
  | utterance u => exact arbitrate_later (c.count .event) u now d
  | metrics m => rfl

theorem hearAll_later (c : Context) (es : List (Event × Instant)) (d : Duration) :
    (c.later d).hearAll (es.map fun e => (e.1, e.2.later d)) = (c.hearAll es).later d := by
  induction es generalizing c with
  | nil => rfl
  | cons e es ih =>
    show ((c.later d).hear e.1 (e.2.later d)).hearAll _ = ((c.hear e.1 e.2).hearAll es).later d
    rw [hear_later, ih]

end Context

end TurnTaking
