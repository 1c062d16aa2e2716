import TurnTaking.Conversation.Observer
import TurnTaking.Proofs.Conversation.Decisions
import TurnTaking.Proofs.Routes.Registrations
/-!
# Which handlers run

What runs in a conversation with any table of handlers is seen by watching them: each handler notes
for which registration it ran, what it found and what it left. An event takes the conversation on a
tour of the handlers that are registered for its kind (`Tour`), each once, in the order of their
registration, and each on what the one before has left.

The main statement is `handlers_by_kind`. It also says that handlers which leave the context as it
is, and were registered after the standard ones, make no difference to anything but their own notes.
-/

namespace TurnTaking

open Time

/-! ## Watching handlers -/

/-- One time that a handler ran: the place of its registration, the event, and what it found and
left. -/
structure HandlerRun (σ : Type) where
  place : Nat
  event : Event
  now : Instant
  found : σ
  left : σ

/-- The first one has found the one state, each of the others what the one before has left, and the
last one has left the other state. -/
def HandlerRun.Linked {σ : Type} (s : σ) : List (HandlerRun σ) → σ → Prop
  | [], t => s = t
  | run :: runs, t => run.found = s ∧ Linked run.left runs t

/-- An event has taken a state through the handlers that are registered for its kind and through no
others, each once and in the order of their registration. -/
structure Tour {σ : Type} (rs : List (Registration σ)) (s : σ) (e : Event) (now : Instant)
    (runs : List (HandlerRun σ)) (t : σ) : Prop where
  /-- The handlers ran in the order of their registration, and none ran twice. -/
  rising : (runs.map (·.place)).Pairwise (· < ·)
  /-- Just those ran that are registered for the kind of the event. -/
  places : ∀ i, i ∈ runs.map (·.place) ↔ ∃ x, rs[i]? = some x ∧ x.kind = e.kind
  /-- Each was given the event and has done what it does. -/
  done : ∀ run ∈ runs, run.event = e ∧ run.now = now ∧
    ∃ x, rs[run.place]? = some x ∧ run.left = x.handler run.found e now
  linked : HandlerRun.Linked s runs t

namespace Conversation

variable {τ : Type}

/-- The notes of watched handlers: their own, and each time that one of them ran. -/
abbrev Watch (τ : Type) : Type :=
  τ × List (HandlerRun (Conversation τ))

/-- A conversation whose handlers will be watched. -/
def watched (c : Conversation τ) : Conversation (Watch τ) :=
  ⟨c.context, (c.notes, [])⟩

/-- The conversation without what has been seen of its handlers. -/
def unwatched (c : Conversation (Watch τ)) : Conversation τ :=
  ⟨c.context, c.notes.1⟩

/-- A handler that is watched. It acts as it always does, on the conversation as it always is. -/
def watchedHandler (place : Nat) (h : Handler (Conversation τ)) :
    Handler (Conversation (Watch τ)) :=
  fun c e now =>
    let left := h c.unwatched e now
    ⟨left.context, (left.notes, c.notes.2 ++ [⟨place, e, now, c.unwatched, left⟩])⟩

/-- The same registrations, with all handlers watched. -/
def watchAll (rs : List (Registration (Conversation τ))) :
    List (Registration (Conversation (Watch τ))) :=
  rs.zipIdx.map fun x => ⟨x.1.kind, watchedHandler x.2 x.1.handler⟩

/-! ## The tour of an event -/

/-- Registrations with their places, those for a kind alone. -/
def placedOfKind (k : EventKind) (rs : List (Registration (Conversation τ))) :
    List (Registration (Conversation τ) × Nat) :=
  rs.zipIdx.filter (·.1.kind = k)

theorem ofKind_watchAll (k : EventKind) (rs : List (Registration (Conversation τ))) :
    (Registration.ofKind k (watchAll rs)).map (·.handler) =
      (placedOfKind k rs).map fun x => watchedHandler x.2 x.1.handler := by
  rw [Registration.ofKind, watchAll, List.filter_map, List.map_map]
  rfl

theorem ofKind_eq_placedOfKind (k : EventKind) (rs : List (Registration (Conversation τ))) :
    Registration.ofKind k rs = (placedOfKind k rs).map (·.1) := by
  have hfst : rs.zipIdx.map (·.1) = rs := List.zipIdx_map_fst 0 rs
  conv_lhs => rw [← hfst, Registration.ofKind, List.filter_map]
  rfl

theorem mem_placedOfKind_iff {k : EventKind} {rs : List (Registration (Conversation τ))}
    {x : Registration (Conversation τ)} {i : Nat} :
    (x, i) ∈ placedOfKind k rs ↔ rs[i]? = some x ∧ x.kind = k := by
  rw [placedOfKind, List.mem_filter, List.mem_zipIdx_iff_getElem?, decide_eq_true_eq]

theorem placedOfKind_rising (k : EventKind) (rs : List (Registration (Conversation τ))) :
    ((placedOfKind k rs).map (·.2)).Pairwise (· < ·) := by
  have hall : (rs.zipIdx.map (·.2)).Pairwise (· < ·) := by
    rw [List.zipIdx_map_snd]
    exact List.pairwise_lt_range'
  exact hall.sublist ((List.filter_sublist (l := rs.zipIdx)).map (·.2))

/-- Watched handlers do to the conversation what they always do, and each adds one run to those that
have been seen. -/
theorem foldl_watchedHandler (xs : List (Registration (Conversation τ) × Nat)) (e : Event)
    (now : Instant) (c : Conversation (Watch τ)) :
    let d := (xs.map fun x => watchedHandler x.2 x.1.handler).foldl (fun c h => h c e now) c
    ∃ runs, d.notes.2 = c.notes.2 ++ runs ∧
      runs.map (·.place) = xs.map (·.2) ∧
      (∀ run ∈ runs, run.event = e ∧ run.now = now ∧
        ∃ x, (x, run.place) ∈ xs ∧ run.left = x.handler run.found e now) ∧
      HandlerRun.Linked c.unwatched runs d.unwatched ∧
      d.unwatched = (xs.map (·.1.handler)).foldl (fun c h => h c e now) c.unwatched := by
  induction xs generalizing c with
  | nil => exact ⟨[], (List.append_nil _).symm, rfl, by simp, rfl, rfl⟩
  | cons x xs ih =>
    -- the first handler runs on what is there, the others on what it has left
    let run : HandlerRun (Conversation τ) :=
      ⟨x.2, e, now, c.unwatched, x.1.handler c.unwatched e now⟩
    obtain ⟨runs, hseen, hplaces, hdone, hlinked, hsame⟩ :=
      ih (watchedHandler x.2 x.1.handler c e now)
    refine ⟨run :: runs, ?_, ?_, ?_, ⟨rfl, hlinked⟩, hsame⟩
    · exact hseen.trans (by simp [watchedHandler, run])
    · rw [List.map_cons, hplaces]
      rfl
    · intro r hr
      rcases List.mem_cons.1 hr with rfl | hr
      · exact ⟨rfl, rfl, x.1, List.mem_cons_self, rfl⟩
      · obtain ⟨hevent, hnow, y, hy, hleft⟩ := hdone r hr
        exact ⟨hevent, hnow, y, List.mem_cons_of_mem x hy, hleft⟩

/-- The conversation when an event has been counted and no handler has run yet. -/
def counted (c : Conversation τ) : Conversation τ :=
  { c with context := c.context.count .event }

theorem handle_eq (routes : Routes (Conversation τ)) (c : Conversation τ) (e : Event)
    (now : Instant) : c.handle routes e now =
      (routes.handlersFor e.kind).foldl (fun c h => h c e now) c.counted :=
  rfl

theorem handlersFor_empty_onAll {σ : Type} (rs : List (Registration σ)) (k : EventKind) :
    (Routes.empty.onAll rs).handlersFor k = (Registration.ofKind k rs).map (·.handler) :=
  Routes.handlersFor_onAll .empty rs k

/-- An event takes a conversation on a tour of the handlers of its kind, and to where it takes the
conversation when nobody watches. -/
theorem tour_handle (rs : List (Registration (Conversation τ))) (c : Conversation (Watch τ))
    (e : Event) (now : Instant) :
    let d := c.handle (.onAll .empty (watchAll rs)) e now
    d.unwatched = c.unwatched.handle (.onAll .empty rs) e now ∧
      ∃ runs, d.notes.2 = c.notes.2 ++ runs ∧
        Tour rs c.unwatched.counted e now runs d.unwatched := by
  intro d
  have hd : d = ((placedOfKind e.kind rs).map fun x => watchedHandler x.2 x.1.handler).foldl
      (fun c h => h c e now) c.counted := by
    rw [← ofKind_watchAll, ← handlersFor_empty_onAll]
    rfl
  obtain ⟨runs, hseen, hplaces, hdone, hlinked, hsame⟩ :=
    foldl_watchedHandler (placedOfKind e.kind rs) e now c.counted
  rw [← hd] at hseen hlinked hsame
  refine ⟨?_, runs, hseen, ?_, ?_, ?_, hlinked⟩
  · rw [hsame, handle_eq, handlersFor_empty_onAll, ofKind_eq_placedOfKind, List.map_map]
    rfl
  · rw [hplaces]
    exact placedOfKind_rising e.kind rs
  · intro i
    rw [hplaces, List.mem_map]
    constructor
    · rintro ⟨⟨x, j⟩, hx, rfl⟩
      exact ⟨x, mem_placedOfKind_iff.1 hx⟩
    · rintro ⟨x, hx⟩
      exact ⟨(x, i), mem_placedOfKind_iff.2 hx, rfl⟩
  · intro run hrun
    obtain ⟨hevent, hnow, x, hx, hleft⟩ := hdone run hrun
    exact ⟨hevent, hnow, x, (mem_placedOfKind_iff.1 hx).1, hleft⟩

/-! ## Whole conversations -/

/-- The conversation after a move at its own host, with a table of handlers of any kind. -/
def moveBy (routes : Routes (Conversation τ)) (c : Conversation τ) : Move Advance → Conversation τ
  | .event e now => c.handle routes e now
  | .errands a => c.withOutbox (c.context.outbox.advance a)

/-- The conversation after some moves at its own host, with a table of handlers of any kind. -/
def runBy (routes : Routes (Conversation τ)) (c : Conversation τ) (ms : List (Move Advance)) :
    Conversation τ :=
  ms.foldl (moveBy routes) c

/-- Every event among some moves has taken a conversation on a tour of the handlers of its kind, and
nothing else has made a handler run. -/
inductive Toured (rs : List (Registration (Conversation τ))) :
    Conversation τ → List (Move Advance) → List (HandlerRun (Conversation τ)) →
      Conversation τ → Prop where
  | nil (c : Conversation τ) : Toured rs c [] [] c
  | event {c d f : Conversation τ} {e : Event} {now : Instant} {ms : List (Move Advance)}
    {runs more : List (HandlerRun (Conversation τ))} (htour : Tour rs c.counted e now runs d)
    (hrest : Toured rs d ms more f) : Toured rs c (.event e now :: ms) (runs ++ more) f
  | errands {c f : Conversation τ} {a : Advance} {ms : List (Move Advance)}
    {runs : List (HandlerRun (Conversation τ))}
    (hrest : Toured rs (c.withOutbox (c.context.outbox.advance a)) ms runs f) :
    Toured rs c (.errands a :: ms) runs f

theorem toured_runBy (rs : List (Registration (Conversation τ))) (c : Conversation (Watch τ))
    (ms : List (Move Advance)) :
    let d := c.runBy (.onAll .empty (watchAll rs)) ms
    d.unwatched = c.unwatched.runBy (.onAll .empty rs) ms ∧
      ∃ runs, d.notes.2 = c.notes.2 ++ runs ∧ Toured rs c.unwatched ms runs d.unwatched := by
  induction ms generalizing c with
  | nil => exact ⟨rfl, [], (List.append_nil _).symm, .nil _⟩
  | cons m ms ih =>
    cases m with
    | event e now =>
      obtain ⟨hsame, runs, hseen, htour⟩ := tour_handle rs c e now
      obtain ⟨hrest, more, hmore, htoured⟩ := ih (c.handle (.onAll .empty (watchAll rs)) e now)
      refine ⟨?_, runs ++ more, ?_, .event htour htoured⟩
      · exact hrest.trans (congrArg (·.runBy (.onAll .empty rs) ms) hsame)
      · rw [← List.append_assoc, ← hseen]
        exact hmore
    | errands a =>
      obtain ⟨hrest, runs, hseen, htoured⟩ := ih (c.withOutbox (c.context.outbox.advance a))
      exact ⟨hrest, runs, hseen, .errands htoured⟩

/-! ## Handlers that leave the context as it is -/

/-- A handler that leaves the context as it is, whatever it notes. -/
def LeavesContext (h : Handler (Conversation τ)) : Prop :=
  ∀ c e now, (h c e now).context = c.context

theorem context_foldl {hs : List (Handler (Conversation τ))} (h : ∀ f ∈ hs, LeavesContext f)
    (c : Conversation τ) (e : Event) (now : Instant) :
    (hs.foldl (fun c f => f c e now) c).context = c.context := by
  induction hs generalizing c with
  | nil => rfl
  | cons f hs ih =>
    exact (ih (fun g hg => h g (List.mem_cons_of_mem f hg)) (f c e now)).trans
      (h f List.mem_cons_self c e now)

variable {extra : List (Registration (Conversation τ))}

/-- What further handlers note makes no difference to the context. -/
theorem context_handle_onAll (h : ∀ x ∈ extra, LeavesContext x.handler) (c : Conversation τ)
    (e : Event) (now : Instant) :
    (c.handle (.onAll standardRoutes extra) e now).context = c.context.hear e now := by
  have hextra : ∀ f ∈ (Registration.ofKind e.kind extra).map (·.handler), LeavesContext f := by
    intro f hf
    rcases List.mem_map.1 hf with ⟨x, hx, rfl⟩
    exact h x (List.mem_of_mem_filter hx)
  rw [handle_eq, Routes.handlersFor_onAll, List.foldl_append, context_foldl hextra]
  exact congrArg (·.context) (c.handle_standardRoutes e now)

/-- A move has the same effect on the context, with further handlers or without. -/
theorem context_moveBy_onAll (h : ∀ x ∈ extra, LeavesContext x.handler) {c d : Conversation τ}
    (hcd : c.context = d.context) (m : Move Advance) :
    (c.moveBy (.onAll standardRoutes extra) m).context = (d.move m).context := by
  cases m with
  | event e now =>
    show (c.handle _ e now).context = (d.handle standardRoutes e now).context
    rw [context_handle_onAll h, handle_standardRoutes, hcd]
  | errands a =>
    rw [moveBy, move, withOutbox, withOutbox]
    dsimp only
    rw [hcd]

/-- So have some moves, and the same is decided. -/
theorem context_runBy_onAll (h : ∀ x ∈ extra, LeavesContext x.handler) {c d : Conversation τ}
    (hcd : c.context = d.context) (ms : List (Move Advance)) :
    (c.runBy (.onAll standardRoutes extra) ms).context = (d.run ms).context ∧
      Move.decisions (·.context) (moveBy (.onAll standardRoutes extra)) c ms = d.decisions ms := by
  induction ms generalizing c d with
  | nil => exact ⟨hcd, rfl⟩
  | cons m ms ih =>
    obtain ⟨hcontext, hdecisions⟩ := ih (context_moveBy_onAll h hcd m)
    refine ⟨hcontext, ?_⟩
    cases m with
    | event e now =>
      show c.context.decision? e now :: _ = d.context.decision? e now :: _
      rw [hcd]
      exact congrArg _ hdecisions
    | errands a => exact hdecisions

/-- Conversations with the same context are finished alike. -/
theorem finish_of_context {c d : Conversation τ} (h : c.context = d.context) (refusals : UInt64) :
    (c.finish refusals).1 = (d.finish refusals).1 ∧
      (c.finish refusals).2.context = (d.finish refusals).2.context := by
  rw [finish, finish, h]
  exact ⟨rfl, rfl⟩

/-- A table that is filled by some registrations holds for each kind the handlers that were
registered for it, in order, and as many in all as there were registrations. Registrations of
different kinds may change places. Whatever is said and done, each event takes the conversation on a
tour of the handlers of its kind; to watch the handlers changes nothing. If all of them leave the
context as it is, then after the standard handlers they make no difference to the context, to what
is decided and to the final account. -/
theorem handlers_by_kind (rs : List (Registration (Conversation τ))) :
    (∀ k, (Routes.empty.onAll rs).handlersFor k = (Registration.ofKind k rs).map (·.handler)) ∧
    (∀ before after x y, rs = before ++ x :: y :: after → x.kind ≠ y.kind →
      Routes.empty.onAll (before ++ y :: x :: after) = Routes.empty.onAll rs) ∧
    (Routes.empty.onAll rs).size = rs.length ∧
    ((Routes.empty.onAll rs).isEmpty = true ↔ rs = []) ∧
    (∀ (c : Conversation τ) (ms : List (Move Advance)),
      let seen := c.watched.runBy (.onAll .empty (watchAll rs)) ms
      seen.unwatched = c.runBy (.onAll .empty rs) ms ∧ Toured rs c ms seen.notes.2 seen.unwatched) ∧
    ((∀ x ∈ rs, LeavesContext x.handler) →
      ∀ (settings : Settings) (mode : HostMode) (notes : τ) (ms : List (Move Advance))
          (refusals : UInt64),
        let c := (fresh settings mode notes).run ms
        let d := (fresh settings mode notes).runBy (.onAll standardRoutes rs) ms
        d.context = c.context ∧
          Move.decisions (·.context) (moveBy (.onAll standardRoutes rs))
            (fresh settings mode notes) ms = (fresh settings mode notes).decisions ms ∧
          (d.finish refusals).1 = (c.finish refusals).1 ∧
          (d.finish refusals).2.context = (c.finish refusals).2.context) := by
  have hnone : (Routes.empty : Routes (Conversation τ)).size = 0 := rfl
  refine ⟨handlersFor_empty_onAll rs, ?_, ?_, Routes.isEmpty_onAll_iff rs, ?_, ?_⟩
  · rintro before after x y rfl hne
    exact Routes.onAll_swap .empty before after (Ne.symm hne)
  · rw [Routes.size_onAll, hnone, Nat.zero_add]
  · intro c ms seen
    obtain ⟨hsame, runs, hseen, htoured⟩ := toured_runBy rs c.watched ms
    have hruns : seen.notes.2 = runs := hseen
    rw [hruns]
    exact ⟨hsame, htoured⟩
  · intro h settings mode notes ms refusals c d
    obtain ⟨hcontext, hdecisions⟩ :=
      context_runBy_onAll h (rfl : (fresh settings mode notes).context = _) ms
    exact ⟨hcontext, hdecisions, finish_of_context hcontext refusals⟩

/-- Two observers of transcripts, and one of phase changes between them. -/
theorem handlers_by_kind_observers :
    let rs : List (Registration (Conversation (List Note))) :=
      [⟨.utterance, observer (.str "first") .watch⟩, ⟨.phaseChange, observer .null .watch⟩,
        ⟨.utterance, observer (.str "second") .watch⟩]
    let start : Conversation (List Note) := .fresh .standard .willing []
    let ms : List (Move Advance) :=
      [.event (.phaseChange ⟨.idle, .speaking, .onArrival⟩) ⟨0⟩,
        .event (.utterance ⟨"stop", true, none, .onArrival⟩) ⟨1⟩, .errands .settle]
    let seen := start.watched.runBy (.onAll .empty (watchAll rs)) ms
    let d := start.runBy (.onAll standardRoutes rs) ms
    (Routes.empty.onAll rs).size = 3 ∧ (∀ x ∈ rs, LeavesContext x.handler) ∧
      seen.notes.2.map (·.place) = [1, 0, 2] ∧ Toured rs start ms seen.notes.2 seen.unwatched ∧
      d.notes.map (·.speaking) = [true, true, true] ∧ d.context = (start.run ms).context ∧
      d.context.tally.interrupts = 1 := by
  intro rs start ms seen d
  obtain ⟨-, -, hsize, -, htoured, hcontext⟩ := handlers_by_kind rs
  have hleaves : ∀ x ∈ rs, LeavesContext x.handler := by
    intro x hx c e now
    simp only [rs, List.mem_cons, List.not_mem_nil, or_false] at hx
    rcases hx with rfl | rfl | rfl <;> rfl
  have hsame := (hcontext hleaves .standard .willing [] ms 0).1
  exact ⟨hsize, hleaves, by decide +kernel, (htoured start ms).2, by decide +kernel, hsame,
    by decide +kernel⟩

end Conversation

end TurnTaking
