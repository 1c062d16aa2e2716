import TurnTaking.Proofs.Conversation.Likeness
import TurnTaking.Proofs.Outbox.OwnHost
/-!
# The course of a conversation

A conversation handles its events while its errands come as far as the host lets them. Its course
is told for a host of any kind, with the log of its requests, and for the hosts that an outbox has
of its own; a course at one of those is a course at a host of any kind (`exists_shownBy`).

The main statement is `requests_accounted`: at every moment each request that an action has made is
in flight or finished, and has reached the host once at most; and when a conversation is finished
its host has taken the requests of all its actions in some order, and its counters tell the actions
and all refusals.
-/

namespace TurnTaking

open Time

/-- What can happen to a conversation next, where `π` is what can happen to its errands. -/
inductive Move (π : Type) where
  | event (e : Event) (now : Instant)
  | errands (p : π)

/-- The events among some moves, in order. -/
def Move.events {π : Type} (ms : List (Move π)) : List (Event × Instant) :=
  ms.filterMap fun
    | .event e now => some (e, now)
    | .errands _ => none

namespace Move

variable {π : Type}

theorem events_append (ms ns : List (Move π)) : events (ms ++ ns) = events ms ++ events ns := by
  rw [events, events, events, List.filterMap_append]

/-- What happens to errands is no event. -/
theorem events_errands (ps : List π) : events (ps.map .errands) = [] := by
  rw [events, List.filterMap_map]
  exact List.filterMap_eq_nil_iff.2 fun p _ => rfl

end Move

/-! ## What comes of an event -/

/-- What comes of an event. -/
inductive Verdict where
  /-- It is no transcript. -/
  | other
  /-- It is a transcript that is passed over. -/
  | passedOver
  /-- It is a transcript that calls for an action. -/
  | action (a : Action)
deriving DecidableEq, Repr

/-- The outbox after an event of which this has come. -/
def Outbox.note (o : Outbox) : Verdict → Outbox
  | .other => o.count .event
  | .passedOver => (o.count .event).count .skipped
  | .action a => (o.count .event).dispatch a

theorem Outbox.mode_note (o : Outbox) (v : Verdict) : (o.note v).host.mode = o.host.mode := by
  cases v with
  | other => rfl
  | passedOver => rfl
  | action a => cases a <;> rfl

/-- The log after an event of which this has come. -/
def Log.note (l : Log) : Verdict → Log
  | .action a => l.dispatch a
  | _ => l

/-- The traffic after an event of which this has come. -/
def Traffic.note (t : Traffic) (v : Verdict) : Traffic :=
  ⟨t.outbox.note v, t.log.note v⟩

/-- The action that was called for, if any. -/
def Verdict.action? : Verdict → Option Action
  | .action a => some a
  | _ => none

/-- The action that a record of a decision tells. -/
def Record.action? (r : Record) : Option Action :=
  match r.payload with
  | .turn report => some report.action
  | _ => none

/-- The actions that the records of decisions tell, in order. -/
def Journal.actions (j : Journal) : List Action :=
  (j.on Record.turnTopic).filterMap (·.action?)

namespace Journal

theorem actions_add_ofPhaseChange (j : Journal) (r : PhaseReport) :
    (j.add (.ofPhaseChange r)).actions = j.actions := by
  simp [actions, on, add, Record.ofPhaseChange, Record.phaseTopic, Record.turnTopic]

theorem actions_add_ofUsage (j : Journal) (u : Usage) :
    (j.add (.ofUsage u)).actions = j.actions := by
  simp [actions, on, add, Record.ofUsage, Record.usageTopic, Record.turnTopic]

theorem actions_add_ofTurn (j : Journal) (r : TurnReport) :
    (j.add (.ofTurn r)).actions = j.actions ++ [r.action] := by
  simp [actions, on, add, Record.ofTurn, Record.action?]

end Journal

namespace Context

/-- A transcript is counted as an event. It is passed over, or what is decided about it is reported
and then dispatched. -/
theorem hear_utterance_cases (c : Context) (u : Utterance) (now : Instant) :
    (c.moderator.judge u.transcript u.isFinal now = none ∧
        c.hear (.utterance u) now = (c.count .event).count .skipped) ∨
      ∃ d, c.moderator.judge u.transcript u.isFinal now = some d ∧
        c.hear (.utterance u) now =
          { c.report (.ofTurn ⟨u.transcript, d.cues, d.action⟩) with
            outbox := (c.outbox.count .event).dispatch d.action } := by
  rcases (c.count .event).arbitrate_cases u now with ⟨hjudge, heq⟩ | ⟨d, hjudge, heq⟩
  · exact Or.inl ⟨hjudge, congrArg Prod.fst heq⟩
  · exact Or.inr ⟨d, hjudge, congrArg Prod.fst heq⟩

/-- What comes of an event that the standard handlers handle. -/
def verdict (c : Context) (e : Event) (now : Instant) : Verdict :=
  match e with
  | .utterance u =>
    match c.moderator.judge u.transcript u.isFinal now with
    | some d => .action d.action
    | none => .passedOver
  | _ => .other

/-- An event changes the outbox as its verdict says, and its record tells the action. -/
theorem hear_verdict (c : Context) (e : Event) (now : Instant) :
    (c.hear e now).outbox = c.outbox.note (c.verdict e now) ∧
      (c.hear e now).journal.actions = c.journal.actions ++ (c.verdict e now).action?.toList := by
  cases e with
  | phaseChange p =>
    refine ⟨rfl, ?_⟩
    show (c.journal.add (.ofPhaseChange _)).actions = c.journal.actions ++ []
    rw [Journal.actions_add_ofPhaseChange, List.append_nil]
  | metrics m => exact ⟨rfl, (List.append_nil _).symm⟩
  | utterance u =>
    rcases c.hear_utterance_cases u now with ⟨hjudge, heq⟩ | ⟨d, hjudge, heq⟩
    · have hverdict : c.verdict (.utterance u) now = .passedOver := by
        simp only [verdict, hjudge]
      rw [hverdict, heq]
      exact ⟨rfl, (List.append_nil _).symm⟩
    · have hverdict : c.verdict (.utterance u) now = .action d.action := by
        simp only [verdict, hjudge]
      rw [hverdict, heq]
      refine ⟨rfl, ?_⟩
      show (c.journal.add (.ofTurn _)).actions = c.journal.actions ++ [d.action]
      rw [Journal.actions_add_ofTurn]

/-- Both know, have measured and have reported the same. -/
structure Agree (c d : Context) : Prop where
  moderator : c.moderator = d.moderator
  usage : c.usage = d.usage
  journal : c.journal = d.journal

theorem Agree.symm {c d : Context} (h : c.Agree d) : d.Agree c :=
  ⟨h.moderator.symm, h.usage.symm, h.journal.symm⟩

theorem Agree.trans {c d e : Context} (h : c.Agree d) (h' : d.Agree e) : c.Agree e :=
  ⟨h.moderator.trans h'.moderator, h.usage.trans h'.usage, h.journal.trans h'.journal⟩

/-- What an event does to what is known, measured and reported does not depend on the outbox. -/
theorem Agree.hear {c d : Context} (h : c.Agree d) (e : Event) (now : Instant) :
    (c.hear e now).Agree (d.hear e now) ∧ c.verdict e now = d.verdict e now := by
  rcases c with ⟨moderator, usage, outbox, journal⟩
  rcases d with ⟨moderator', usage', outbox', journal'⟩
  rcases h with ⟨hmoderator, husage, hjournal⟩
  dsimp only at hmoderator husage hjournal
  subst hmoderator husage hjournal
  refine ⟨?_, rfl⟩
  cases e with
  | phaseChange p => exact ⟨rfl, rfl, rfl⟩
  | metrics m => exact ⟨rfl, rfl, rfl⟩
  | utterance u =>
    -- the decision is the same, and with it the record
    unfold Context.hear Context.arbitrate
    dsimp only [Context.count]
    cases moderator.judge u.transcript u.isFinal now with
    | none => exact ⟨rfl, rfl, rfl⟩
    | some decision => exact ⟨rfl, rfl, rfl⟩

end Context

/-! ## A host of any kind -/

/-- What a run keeps is kept by what comes of an event. -/
theorem Traffic.Kept.note {t : Traffic} {acts : List Action} (h : t.Kept acts) (v : Verdict) :
    (t.note v).Kept (acts ++ v.action?.toList) := by
  cases v with
  | other =>
    show (t.note .other).Kept (acts ++ [])
    rw [List.append_nil]
    exact h.event
  | passedOver =>
    show (t.note .passedOver).Kept (acts ++ [])
    rw [List.append_nil]
    exact h.event.skipped
  | action a => exact h.event.dispatch a

theorem Shows.note {o : Outbox} {t : Traffic} (h : Shows o t) (v : Verdict) :
    Shows (o.note v) (t.note v) := by
  cases v with
  | other => exact h.count .event
  | passedOver => exact (h.count .event).count .skipped
  | action a => exact (h.count .event).dispatch a

/-- The conversation with another outbox. -/
def Conversation.withOutbox {τ : Type} (c : Conversation τ) (o : Outbox) : Conversation τ :=
  { c with context := { c.context with outbox := o } }

/-- A conversation at a host of any kind, and the log of its requests. -/
structure Course (τ : Type) where
  conversation : Conversation τ
  log : Log

namespace Course

variable {τ : Type}

/-- A course before the first event. -/
def fresh (settings : Settings) (mode : HostMode) (notes : τ) : Course τ :=
  ⟨.fresh settings mode notes, .empty⟩

/-- The outbox of the conversation and the log of its requests. -/
def traffic (k : Course τ) : Traffic :=
  ⟨k.conversation.context.outbox, k.log⟩

/-- The actions that the conversation has reported. -/
def actions (k : Course τ) : List Action :=
  k.conversation.context.journal.actions

/-- The course after a move. -/
def move (k : Course τ) : Move Dealing → Course τ
  | .event e now =>
    ⟨k.conversation.handle Conversation.standardRoutes e now,
      k.log.note (k.conversation.context.verdict e now)⟩
  | .errands d =>
    ⟨k.conversation.withOutbox (k.traffic.deal d).outbox, (k.traffic.deal d).log⟩

/-- The course after some moves. -/
def run (k : Course τ) (ms : List (Move Dealing)) : Course τ :=
  ms.foldl move k

/-- An event adds what comes of it to the traffic and its action to the actions. -/
theorem move_event (k : Course τ) (e : Event) (now : Instant) :
    (k.move (.event e now)).traffic = k.traffic.note (k.conversation.context.verdict e now) ∧
      (k.move (.event e now)).actions =
        k.actions ++ (k.conversation.context.verdict e now).action?.toList := by
  rcases k.conversation.context.hear_verdict e now with ⟨houtbox, hactions⟩
  have hmoved : (k.move (.event e now)).conversation.context =
      k.conversation.context.hear e now :=
    congrArg (·.context) (k.conversation.handle_standardRoutes e now)
  constructor
  · rw [traffic, hmoved, houtbox]
    rfl
  · rw [actions, hmoved, hactions]
    rfl

/-- Every move keeps what a run of the outbox keeps, with the actions that are reported. -/
theorem kept_move {k : Course τ} (h : k.traffic.Kept k.actions) (m : Move Dealing) :
    (k.move m).traffic.Kept (k.move m).actions := by
  cases m with
  | event e now =>
    rcases k.move_event e now with ⟨htraffic, hactions⟩
    rw [htraffic, hactions]
    exact h.note _
  | errands d =>
    -- what happens to the errands reports nothing
    exact h.deal d

theorem kept_run {k : Course τ} (h : k.traffic.Kept k.actions) (ms : List (Move Dealing)) :
    (k.run ms).traffic.Kept (k.run ms).actions := by
  induction ms generalizing k with
  | nil => exact h
  | cons m ms ih => exact ih (kept_move h m)

theorem kept_fresh_run (settings : Settings) (mode : HostMode) (notes : τ)
    (ms : List (Move Dealing)) :
    ((fresh settings mode notes).run ms).traffic.Kept ((fresh settings mode notes).run ms).actions :=
  kept_run (k := .fresh settings mode notes) (Traffic.kept_fresh mode) ms

theorem run_append (k : Course τ) (ms ns : List (Move Dealing)) :
    k.run (ms ++ ns) = (k.run ms).run ns := by
  rw [run, run, run, List.foldl_append]

/-- What a host does changes the traffic alone. -/
theorem run_errands (k : Course τ) (ds : List Dealing) :
    (k.run (ds.map .errands)).traffic = ds.foldl Traffic.deal k.traffic ∧
      k.conversation.context.Agree (k.run (ds.map .errands)).conversation.context := by
  induction ds generalizing k with
  | nil => exact ⟨rfl, rfl, rfl, rfl⟩
  | cons d ds ih =>
    rcases ih (k.move (.errands d)) with ⟨htraffic, hagree⟩
    exact ⟨htraffic, hagree.moderator, hagree.usage, hagree.journal⟩

end Course

/-! ## The hosts of an outbox -/

namespace Conversation

variable {τ : Type}

/-- The conversation after a move at its own host. -/
def move (c : Conversation τ) : Move Advance → Conversation τ
  | .event e now => c.handle standardRoutes e now
  | .errands a => c.withOutbox (c.context.outbox.advance a)

/-- The conversation after some moves at its own host. -/
def run (c : Conversation τ) (ms : List (Move Advance)) : Conversation τ :=
  ms.foldl move c

/-- A course shows a conversation at its own host. -/
structure ShownBy (c : Conversation τ) (k : Course τ) : Prop where
  agree : c.context.Agree k.conversation.context
  outbox : Shows c.context.outbox k.traffic

theorem shownBy_fresh (settings : Settings) (mode : HostMode) (notes : τ) :
    (fresh settings mode notes).ShownBy (.fresh settings mode notes) :=
  ⟨⟨rfl, rfl, rfl⟩, .fresh mode⟩

theorem ShownBy.event {c : Conversation τ} {k : Course τ} (h : c.ShownBy k) (e : Event)
    (now : Instant) : (c.handle standardRoutes e now).ShownBy (k.move (.event e now)) := by
  rcases h.agree.hear e now with ⟨hagree, hverdict⟩
  rcases c.context.hear_verdict e now with ⟨houtbox, -⟩
  rcases k.move_event e now with ⟨htraffic, -⟩
  constructor
  · rw [Course.move, handle_standardRoutes, handle_standardRoutes]
    exact hagree
  · rw [htraffic, handle_standardRoutes]
    show Shows (c.context.hear e now).outbox _
    rw [houtbox, hverdict]
    exact h.outbox.note _

/-- Whatever happens at the conversation's own host is something that can happen at a host of any
kind. -/
theorem ShownBy.errands {c : Conversation τ} {k : Course τ} (h : c.ShownBy k) (a : Advance) :
    ∃ ds : List Dealing, (c.move (.errands a)).ShownBy (k.run (ds.map .errands)) := by
  rcases h.outbox.advance a with ⟨ds, hshows⟩
  rcases k.run_errands ds with ⟨htraffic, hagree⟩
  refine ⟨ds, ?_, ?_⟩
  · have hboth := h.agree.trans hagree
    exact ⟨hboth.moderator, hboth.usage, hboth.journal⟩
  · rw [htraffic]
    exact hshows

theorem ShownBy.move {c : Conversation τ} {k : Course τ} (h : c.ShownBy k) (m : Move Advance) :
    ∃ ms : List (Move Dealing),
      Move.events ms = Move.events [m] ∧ (c.move m).ShownBy (k.run ms) := by
  cases m with
  | event e now => exact ⟨[.event e now], rfl, h.event e now⟩
  | errands a =>
    rcases h.errands a with ⟨ds, hshown⟩
    exact ⟨ds.map .errands, Move.events_errands ds, hshown⟩

theorem ShownBy.run {c : Conversation τ} {k : Course τ} (h : c.ShownBy k)
    (ms : List (Move Advance)) : ∃ ms' : List (Move Dealing),
      Move.events ms' = Move.events ms ∧ (c.run ms).ShownBy (k.run ms') := by
  induction ms generalizing c k with
  | nil => exact ⟨[], rfl, h⟩
  | cons m ms ih =>
    rcases h.move m with ⟨first, hfirst, hmoved⟩
    rcases ih hmoved with ⟨rest, hrest, hran⟩
    refine ⟨first ++ rest, ?_, ?_⟩
    · rw [Move.events_append, hfirst, hrest]
      exact (Move.events_append [m] ms).symm
    · rw [Course.run_append]
      exact hran

/-- The course of a conversation at its own host is a course at a host of any kind, with the same
events. -/
theorem exists_shownBy (settings : Settings) (mode : HostMode) (notes : τ)
    (ms : List (Move Advance)) : ∃ ms' : List (Move Dealing),
      Move.events ms' = Move.events ms ∧
        ((fresh settings mode notes).run ms).ShownBy
          ((Course.fresh settings mode notes).run ms') :=
  (shownBy_fresh settings mode notes).run ms

/-- At every moment the requests that were made are on their way, held or finished. -/
theorem served_run (settings : Settings) (mode : HostMode) (notes : τ)
    (ms : List (Move Advance)) : ∃ finished : List Request,
      ((fresh settings mode notes).run ms).context.outbox.Served
        ((fresh settings mode notes).run ms).context.journal.actions finished := by
  rcases exists_shownBy settings mode notes ms with ⟨ms', -, hshown⟩
  have hkept := Course.kept_fresh_run settings mode notes ms'
  rw [Course.actions, ← hshown.agree.journal] at hkept
  exact hshown.outbox.served hkept

theorem mode_move (c : Conversation τ) (m : Move Advance) :
    (c.move m).context.outbox.host.mode = c.context.outbox.host.mode := by
  cases m with
  | event e now =>
    rcases c.context.hear_verdict e now with ⟨houtbox, -⟩
    rw [move, handle_standardRoutes]
    show (c.context.hear e now).outbox.host.mode = _
    rw [houtbox]
    exact c.context.outbox.mode_note _
  | errands a => exact c.context.outbox.mode_advance a

/-- A host goes on as it is. -/
theorem mode_run (c : Conversation τ) (ms : List (Move Advance)) :
    (c.run ms).context.outbox.host.mode = c.context.outbox.host.mode := by
  induction ms generalizing c with
  | nil => rfl
  | cons m ms ih => exact (ih (c.move m)).trans (c.mode_move m)

/-- A conversation is finished by opening the gate and letting every errand run. -/
theorem run_finish (c : Conversation τ) (ms : List (Move Advance)) :
    c.run (ms ++ [.errands .openGate, .errands .settle]) =
      (c.run ms).withOutbox (c.run ms).context.outbox.finish := by
  rw [run, List.foldl_append]
  rfl

end Conversation

/-- The actions that make requests are all but those that let the turn take its course. -/
theorem map_action_requests (acts : List Action) :
    (acts.filterMap (·.request?)).map (·.action) = acts.filter (· ≠ .noOp) := by
  induction acts with
  | nil => rfl
  | cons a acts ih =>
    cases a with
    | interrupt => exact congrArg (Action.interrupt :: ·) ih
    | clearTurn => exact congrArg (Action.clearTurn :: ·) ih
    | noOp => exact ih

/-- Once nothing is in flight the host has received what the actions were, in some order. -/
theorem Traffic.Accounted.received_perm {t : Traffic} {acts : List Action} (h : t.Accounted acts)
    (hdone : t.outbox.inFlight = 0) :
    (t.log.received.map (·.2.action)).Perm (acts.filter (· ≠ .noOp)) := by
  have hreceived := (h.drained hdone).1.map Request.action
  rw [h.made, map_action_requests, List.map_map] at hreceived
  exact hreceived

namespace Conversation

variable {τ : Type}

/-- What a conversation at its own host has come to when it is finished. -/
theorem served_finish (settings : Settings) (mode : HostMode) (notes : τ)
    (ms : List (Move Advance)) (refusals : UInt64) :
    let c := (fresh settings mode notes).run ms
    let report := (c.finish refusals).1
    let ended := (c.finish refusals).2.context
    let acts := ended.journal.actions
    ended.outbox.inFlight = 0 ∧
      (mode.takes = true → (ended.outbox.host.calls.map (·.action)).Perm
        (acts.filter (· ≠ .noOp))) ∧
      report.tally.Tells acts ((acts.filterMap (·.request?)).countP mode.refuses) := by
  intro c report ended acts
  have hmode : c.context.outbox.finish.host.mode = mode := by
    have hran := (fresh settings mode notes).mode_run (ms ++ [.errands .openGate, .errands .settle])
    rw [run_finish] at hran
    exact hran
  have hacts : acts = c.context.journal.actions := Journal.actions_add_ofUsage _ _
  have hdone : c.context.outbox.finish.inFlight = 0 := c.context.outbox.inFlight_finish
  rcases served_run settings mode notes (ms ++ [.errands .openGate, .errands .settle]) with
    ⟨finished, hserved⟩
  rw [run_finish] at hserved
  have hserved' : c.context.outbox.finish.Served acts finished := by
    rw [hacts]
    exact hserved
  refine ⟨hdone, ?_, ?_⟩
  · intro htakes
    have hcalls : ended.outbox.host.calls = finished := hserved'.calls (by rw [hmode, htakes])
    have hperm := (hserved'.perm_of_done hdone).map Request.action
    rw [map_action_requests] at hperm
    rw [hcalls]
    exact hperm
  · have hfailures := hserved'.failures_of_done hdone
    rw [hmode] at hfailures
    exact hfailures

/-- A host that rejects whatever it is asked for leaves as many failures as interruptions and
clearings. -/
theorem failures_of_rejecting {t : Tally} {acts : List Action}
    (h : t.Tells acts ((acts.filterMap (·.request?)).countP HostMode.rejecting.refuses)) :
    t.failures = t.interrupts + t.clears := by
  have hall : (acts.filterMap (·.request?)).countP HostMode.rejecting.refuses =
      (acts.filterMap (·.request?)).length :=
    List.countP_eq_length.2 fun r _ => rfl
  rw [h.failures, h.interrupts, h.clears, hall, Traffic.length_requests, UInt64.ofNat_add]

/-- After any actions, and whatever a host of any kind has done in between, each request is in
flight or finished, has reached the host at most once, and has done so, as what it is, once it is
finished; the counters tell the actions and the refusals. So it is in the course of a conversation,
and when that is finished its host has received the requests of all its actions, in some order, and
all its refusals are counted. At the hosts of an outbox nothing is in flight then. -/
theorem requests_accounted :
    (∀ (mode : HostMode) (ss : List Traffic.Step),
      ((Traffic.fresh mode).run ss).Accounted (Traffic.actions ss)) ∧
    (∀ (settings : Settings) (mode : HostMode) (notes : τ) (ms : List (Move Dealing))
        (refusals : UInt64),
      let k := (Course.fresh settings mode notes).run ms
      let report := (k.conversation.conclude refusals).1
      k.traffic.Accounted k.actions ∧
        (k.traffic.outbox.inFlight = 0 →
          (k.log.received.map (·.2.action)).Perm (k.actions.filter (· ≠ .noOp)) ∧
            report.tally.Tells k.actions k.log.refused)) ∧
    ∀ (settings : Settings) (mode : HostMode) (notes : τ) (ms : List (Move Advance))
        (refusals : UInt64),
      let c := (fresh settings mode notes).run ms
      let report := (c.finish refusals).1
      let ended := (c.finish refusals).2.context
      let acts := ended.journal.actions
      (∃ finished, c.context.outbox.Served c.context.journal.actions finished ∧
          acts.count .interrupt + acts.count .clearTurn =
            c.context.outbox.inFlight + finished.length) ∧
        ended.outbox.inFlight = 0 ∧
        (mode.takes = true → (ended.outbox.host.calls.map (·.action)).Perm
          (acts.filter (· ≠ .noOp))) ∧
        report.tally.Tells acts ((acts.filterMap (·.request?)).countP mode.refuses) ∧
        (mode = .rejecting →
          report.tally.failures = report.tally.interrupts + report.tally.clears) := by
  refine ⟨Traffic.accounted_run, ?_, ?_⟩
  · intro settings mode notes ms refusals k report
    have haccounted : k.traffic.Accounted k.actions :=
      (Course.kept_fresh_run settings mode notes ms).accounted
    refine ⟨haccounted, ?_⟩
    intro hdone
    exact ⟨haccounted.received_perm hdone, haccounted.counted⟩
  · intro settings mode notes ms refusals c report ended acts
    rcases served_finish settings mode notes ms refusals with ⟨hdone, hcalls, htells⟩
    have hacts : acts = c.context.journal.actions := Journal.actions_add_ofUsage _ _
    rcases served_run settings mode notes ms with ⟨finished, hserved⟩
    refine ⟨⟨finished, hserved, hacts ▸ hserved.length⟩, hdone, hcalls, htells, ?_⟩
    intro hmode
    subst hmode
    exact failures_of_rejecting htells

/-- While an interruption is held at the gate a clearing overtakes it. -/
theorem requests_accounted_overtaken :
    let ms : List (Move Advance) :=
      [.event (.phaseChange ⟨.idle, .speaking, .onArrival⟩) ⟨0⟩,
        .event (.utterance ⟨"stop", true, none, .onArrival⟩) ⟨1⟩, .errands (.run 0),
        .event (.utterance ⟨"yeah", true, none, .onArrival⟩) ⟨2⟩, .errands (.run 0)]
    let c := (fresh .standard .gated ()).run ms
    let ended := (c.finish 0).2.context
    c.context.outbox.inFlight = 1 ∧ ended.outbox.host.calls = [.clearTurn, .interrupt] ∧
      (ended.outbox.host.calls.map (·.action)).Perm
        (ended.journal.actions.filter (· ≠ .noOp)) := by
  intro ms c ended
  have hheld : c.context.outbox.inFlight = 1 := by decide +kernel
  have hcalls : ended.outbox.host.calls = [.clearTurn, .interrupt] := by decide +kernel
  exact ⟨hheld, hcalls, (requests_accounted.2.2 .standard .gated () ms 0).2.2.1 rfl⟩

end Conversation

end TurnTaking
