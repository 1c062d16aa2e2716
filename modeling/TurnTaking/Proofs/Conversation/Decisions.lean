import Mathlib.Data.List.ReduceOption
import TurnTaking.Proofs.Conversation.Echoes
/-!
# What a conversation decides, event by event

Runs of conversations are compared by what is decided about each of their events, so here a decision
is tied to the place of its event. What is decided depends on the settings and on the events before
it alone (`decisionAfter`): not on the host, nor on what happens to the errands in between. It is
what the handlers dispatch (`Context.verdict_action?`).

`Conversation.Handled` says that a conversation has handled some events and decided this about them.
The main statements are `Handled.decisions_eq`, which gives the decisions from the events,
`Handled.kept`, by which what every event keeps holds of every conversation that has handled some
events, and `reduceOption_decisionsAfter`, that the records of turns tell the same decisions.
-/

namespace TurnTaking

open Text Time

/-! ## The decision about an event -/

/-- What is decided about an event that the standard handlers handle: nothing unless it is a
transcript. -/
def Context.decision? (c : Context) (e : Event) (now : Instant) : Option Decision :=
  match e with
  | .utterance u => c.moderator.judge u.transcript u.isFinal now
  | _ => none

/-- What is decided about an event that comes after some others. -/
def decisionAfter (settings : Settings) (before : List (Event × Instant)) (e : Event)
    (now : Instant) : Option Decision :=
  match e with
  | .utterance u =>
    if u.isFinal ∧ trim u.transcript.toList ≠ [] then
      let cues := cuesAfter settings before u.transcript now
      some ⟨cues, cues.action⟩
    else none
  | _ => none

/-- What is decided about each of some events that come after others. -/
def decisionsAfter (settings : Settings) (before : List (Event × Instant)) :
    List (Event × Instant) → List (Option Decision)
  | [] => []
  | (e, now) :: es =>
    decisionAfter settings before e now :: decisionsAfter settings (before ++ [(e, now)]) es

/-- The decision that a report of a transcript tells. -/
def TurnReport.decision (r : TurnReport) : Decision :=
  ⟨r.cues, r.action⟩

/-- The report of a transcript that a record holds. -/
def Record.turn? (r : Record) : Option TurnReport :=
  match r.payload with
  | .turn report => some report
  | _ => none

/-- The decision that a record tells. -/
def Record.decision? (r : Record) : Option Decision :=
  match r.payload with
  | .turn report => some ⟨report.cues, report.action⟩
  | _ => none

/-- The reports of transcripts among the records, in order. -/
def Journal.turnReports (j : Journal) : List TurnReport :=
  (j.on "turn:decision").filterMap (·.turn?)

/-- The requests that some decisions make, in order. -/
def requestsOf (ds : List (Option Decision)) : List Request :=
  ds.filterMap fun d => d.bind (·.action.request?)

theorem Record.decision?_eq (r : Record) : r.decision? = r.turn?.map (·.decision) := by
  rcases r with ⟨topic, _ | _ | _ | _⟩ <;> rfl

theorem Record.action?_eq (r : Record) : r.action? = r.decision?.map (·.action) := by
  rcases r with ⟨topic, _ | _ | _ | _⟩ <;> rfl

variable {settings : Settings} {es : List (Event × Instant)}

/-- A conversation that has been told of some events decides by them alone. -/
theorem Context.Told.decision?_eq {c : Context} (h : c.Told settings es) (e : Event)
    (now : Instant) : c.decision? e now = decisionAfter settings es e now := by
  cases e with
  | phaseChange p => rfl
  | metrics m => rfl
  | utterance u => exact h.judge u now

/-- What is decided about an event is dispatched, and nothing else is. -/
theorem Context.verdict_action? (c : Context) (e : Event) (now : Instant) :
    (c.verdict e now).action? = (c.decision? e now).map (·.action) := by
  cases e with
  | phaseChange p => rfl
  | metrics m => rfl
  | utterance u =>
    simp only [verdict, decision?]
    cases c.moderator.judge u.transcript u.isFinal now <;> rfl

/-- The record of an event tells what is decided about it. -/
theorem decisionAfter_eq_echo (before : List (Event × Instant)) (e : Event) (now : Instant) :
    decisionAfter settings before e now =
      (echo? settings before e now).bind Record.decision? := by
  cases e with
  | phaseChange p => rfl
  | metrics m => rfl
  | utterance u =>
    rw [decisionAfter, echo?_utterance]
    split <;> rfl

/-- The records of some events tell the decisions about them. -/
theorem reduceOption_decisionsAfter (before es : List (Event × Instant)) :
    (decisionsAfter settings before es).reduceOption =
      (echoesAfter settings before es).filterMap Record.decision? := by
  induction es generalizing before with
  | nil => rfl
  | cons e es ih =>
    show (decisionAfter settings before e.1 e.2 ::
      decisionsAfter settings (before ++ [e]) es).reduceOption =
        ((echo? settings before e.1 e.2).toList ++ _).filterMap Record.decision?
    rw [decisionAfter_eq_echo, List.filterMap_append, ← ih]
    cases echo? settings before e.1 e.2 with
    | none => rfl
    | some r =>
      cases hd : r.decision? with
      | none => simp [hd]
      | some d => simp [hd]

/-! ## The decisions of a run -/

/-- What is decided about each of the events among some moves, where `context` tells the state of
the conversation that makes them. -/
def Move.decisions {σ π : Type} (context : σ → Context) (move : σ → Move π → σ) (s : σ) :
    List (Move π) → List (Option Decision)
  | [] => []
  | .event e now :: ms =>
    (context s).decision? e now :: decisions context move (move s (.event e now)) ms
  | .errands p :: ms => decisions context move (move s (.errands p)) ms

/-- Moves of which the conversation is told the events, and nothing more, come with the decisions
about these events. -/
theorem Move.decisions_eq {σ π : Type} {context : σ → Context} {move : σ → Move π → σ}
    (htold : ∀ s es m, (context s).Told settings es →
      (context (move s m)).Told settings (es ++ Move.events [m]))
    {s : σ} (h : (context s).Told settings es) (ms : List (Move π)) :
    Move.decisions context move s ms = decisionsAfter settings es (Move.events ms) := by
  induction ms generalizing s es with
  | nil => rfl
  | cons m ms ih =>
    have hmoved := ih (htold s es m h)
    cases m with
    | event e now =>
      show (context s).decision? e now :: Move.decisions context move _ ms = _
      rw [hmoved, h.decision?_eq]
      rfl
    | errands p =>
      show Move.decisions context move _ ms = _
      rw [hmoved]
      show decisionsAfter settings (es ++ []) _ = _
      rw [List.append_nil]
      rfl

/-- What is decided about each of the events of a run at a host of any kind. -/
def Course.decisions {τ : Type} (k : Course τ) (ms : List (Move Dealing)) :
    List (Option Decision) :=
  Move.decisions (·.conversation.context) Course.move k ms

namespace Conversation

/-- What is decided about each of the events of a run at the conversation's own host. -/
def decisions {τ : Type} (c : Conversation τ) (ms : List (Move Advance)) :
    List (Option Decision) :=
  Move.decisions (·.context) Conversation.move c ms

/-- The conversation has handled these events from its beginning, with whatever happened to its
errands in between, and this is what it has decided about each of them. So it was at a host of any
kind, or at one of the hosts of an outbox. -/
inductive Handled {τ : Type} (settings : Settings) :
    List (Event × Instant) → List (Option Decision) → Conversation τ → Prop where
  | anyHost (mode : HostMode) (notes : τ) (ms : List (Move Dealing)) :
    Handled settings (Move.events ms) ((Course.fresh settings mode notes).decisions ms)
      ((Course.fresh settings mode notes).run ms).conversation
  | ownHost (mode : HostMode) (notes : τ) (ms : List (Move Advance)) :
    Handled settings (Move.events ms) ((fresh settings mode notes).decisions ms)
      ((fresh settings mode notes).run ms)

variable {τ : Type} {ds : List (Option Decision)} {c : Conversation τ}

/-- Every move at the conversation's own host is told to it if it is an event, and tells it nothing
if it is not. -/
theorem told_move (c : Conversation τ) (es : List (Event × Instant)) (m : Move Advance)
    (h : c.context.Told settings es) :
    (c.move m).context.Told settings (es ++ Move.events [m]) := by
  cases m with
  | event e now =>
    show (c.handle standardRoutes e now).context.Told settings _
    rw [handle_standardRoutes]
    exact h.hear e now
  | errands a =>
    show Context.Told settings (es ++ []) _
    rw [List.append_nil]
    exact h.congr ⟨rfl, rfl, rfl⟩

namespace Handled

/-- Whatever happens to the errands, the decisions are those about the events. -/
theorem decisions_eq (h : c.Handled settings es ds) : ds = decisionsAfter settings [] es := by
  cases h with
  | anyHost mode notes ms =>
    exact Move.decisions_eq (fun _ _ m h => Course.told_move h m)
      (Context.told_fresh settings mode) ms
  | ownHost mode notes ms =>
    exact Move.decisions_eq told_move (Context.told_fresh settings mode) ms

theorem told (h : c.Handled settings es ds) : c.context.Told settings es := by
  cases h with
  | anyHost mode notes ms => exact Course.told_run settings mode notes ms
  | ownHost mode notes ms => exact told_run settings mode notes ms

/-- What holds at the beginning, is kept by every event and does not depend on the outbox holds of
every conversation that has handled some events. -/
theorem kept {P : List (Event × Instant) → Context → Prop}
    (hfresh : ∀ mode, P [] (.fresh settings mode))
    (hhear : ∀ es c e now, P es c → P (es ++ [(e, now)]) (c.hear e now))
    (hagree : ∀ es c d, c.Agree d → P es c → P es d) (h : c.Handled settings es ds) :
    P es c.context := by
  -- it is enough to look at a host of any kind, since the outbox makes no difference
  have hcourse : ∀ mode (notes : τ) ms,
      P (Move.events ms) ((Course.fresh settings mode notes).run ms).conversation.context := by
    intro mode notes ms
    induction ms using List.reverseRecOn with
    | nil => exact hfresh mode
    | append_singleton ms m ih =>
      rw [Course.run_append, Move.events_append]
      cases m with
      | event e now =>
        show P _ ((Conversation.handle standardRoutes _ e now).context)
        rw [handle_standardRoutes]
        exact hhear _ _ e now ih
      | errands d =>
        show P (Move.events ms ++ []) _
        rw [List.append_nil]
        have hsame : ((Course.fresh settings mode notes).run ms).conversation.context.Agree
            (((Course.fresh settings mode notes).run ms).move (.errands d)).conversation.context :=
          ⟨rfl, rfl, rfl⟩
        exact hagree _ _ _ hsame ih
  cases h with
  | anyHost mode notes ms => exact hcourse mode notes ms
  | ownHost mode notes ms =>
    rcases exists_shownBy settings mode notes ms with ⟨ms', hevents, hshown⟩
    rw [← hevents]
    exact hagree _ _ _ hshown.agree.symm (hcourse mode notes ms')

/-- The reports of transcripts are those among the records of the events. -/
theorem turnReports_eq (h : c.Handled settings es ds) :
    c.context.journal.turnReports = (echoes settings es).filterMap (·.turn?) := by
  rw [Journal.turnReports, Journal.on, h.told.records, List.filterMap_filter]
  refine List.filterMap_congr ?_
  intro r hr
  rcases mem_echoes_cases hr with ⟨phase, rfl⟩ | ⟨turn, rfl⟩
  · rfl
  · rfl

/-- The reports of transcripts tell the decisions, in order. -/
theorem decisions_told (h : c.Handled settings es ds) :
    ds.reduceOption = c.context.journal.turnReports.map (·.decision) := by
  rw [h.decisions_eq, reduceOption_decisionsAfter, h.turnReports_eq, List.map_filterMap]
  refine List.filterMap_congr ?_
  intro r _
  exact r.decision?_eq

/-- The actions that are reported are those that were decided upon, in order. -/
theorem actions_eq (h : c.Handled settings es ds) :
    c.context.journal.actions = ds.reduceOption.map (·.action) := by
  rw [h.decisions_told, Journal.turnReports, List.map_map, List.map_filterMap, Journal.actions]
  refine List.filterMap_congr ?_
  intro r _
  rw [r.action?_eq, r.decision?_eq, Option.map_map]

/-- The requests that are made are those of the decisions, in order. -/
theorem requests_eq (h : c.Handled settings es ds) :
    c.context.journal.actions.filterMap (·.request?) = requestsOf ds := by
  rw [h.actions_eq, List.filterMap_map]
  show (ds.filterMap id).filterMap _ = _
  rw [List.filterMap_filterMap]
  rfl

/-- The actions that are reported, but for those that do nothing, are what is requested. -/
theorem reported_actions (h : c.Handled settings es ds) :
    (c.context.journal.turnReports.map (·.action)).filter (· ≠ .noOp) =
      (requestsOf ds).map (·.action) := by
  rw [← h.requests_eq, map_action_requests, h.actions_eq, h.decisions_told, List.map_map]
  rfl

/-- The counters tell the actions that were decided upon. -/
theorem tells (h : c.Handled settings es ds) :
    ∃ failed, c.context.tally.Tells c.context.journal.actions failed := by
  cases h with
  | anyHost mode notes ms =>
    exact ⟨_, (Course.kept_fresh_run settings mode notes ms).counted⟩
  | ownHost mode notes ms =>
    rcases served_run settings mode notes ms with ⟨finished, hserved⟩
    exact ⟨_, hserved.counted⟩

end Handled

end Conversation

/-- The requests that have been made to a host of any kind are those of the decisions, in order. -/
theorem Course.made_eq {τ : Type} (settings : Settings) (mode : HostMode) (notes : τ)
    (ms : List (Move Dealing)) :
    ((fresh settings mode notes).run ms).log.made =
      requestsOf (decisionsAfter settings [] (Move.events ms)) := by
  have hmade := (kept_fresh_run settings mode notes ms).made
  have hhandled : ((fresh settings mode notes).run ms).conversation.Handled settings
      (Move.events ms) ((fresh settings mode notes).decisions ms) := .anyHost mode notes ms
  rw [← hhandled.decisions_eq, ← hhandled.requests_eq]
  exact hmade

end TurnTaking
