import TurnTaking.Proofs.Conversation.Echoes
/-!
# What the counters tell of the events

The counters of a conversation agree with the events that it has handled and with the decisions that
it has made known (`Tally.Agrees`), at every moment and in the final report, whatever happens to its
errands. Every counter is a word, so all of this is up to the number of words.

The main statement is `counters_agree`.
-/

namespace TurnTaking

open Text Time

namespace Event

/-- Whether an event is a transcript. -/
def isUtterance : Event → Bool
  | .utterance _ => true
  | _ => false

/-- Whether an event is a transcript that is passed over: it may still change, or holds nothing but
blanks. -/
def isPassedOver : Event → Bool
  | .utterance u => !u.isFinal || decide (trim u.transcript.toList = [])
  | _ => false

end Event

/-- The counters agree with the events of a conversation and with the records of its decisions. -/
structure Tally.Agrees (t : Tally) (es : List (Event × Instant)) (j : Journal) : Prop where
  /-- Every event is counted. -/
  received : t.received = .ofNat es.length
  /-- Every transcript is classified or skipped. -/
  transcripts : t.classified + t.skipped = .ofNat (es.countP (·.1.isUtterance))
  /-- Those are skipped that may still change or hold nothing but blanks. -/
  skipped : t.skipped = .ofNat (es.countP (·.1.isPassedOver))
  /-- Every transcript that is classified calls for one of the three actions. -/
  balanced : t.classified = t.interrupts + t.clears + t.noOps
  /-- Every transcript that is classified has its record. -/
  decisions : t.classified = .ofNat (j.on Record.turnTopic).length
  interrupts : t.interrupts =
    .ofNat ((j.on Record.turnTopic).countP (·.action? == some .interrupt))
  clears : t.clears = .ofNat ((j.on Record.turnTopic).countP (·.action? == some .clearTurn))
  noOps : t.noOps = .ofNat ((j.on Record.turnTopic).countP (·.action? == some .noOp))

/-! ## One event more -/

/-- What comes of an event is settled by whether it is a transcript and whether that is passed
over. -/
theorem Context.verdict_cases (c : Context) (e : Event) (now : Instant) :
    (e.isUtterance = false ∧ e.isPassedOver = false ∧ c.verdict e now = .other) ∨
      (e.isUtterance = true ∧ e.isPassedOver = true ∧ c.verdict e now = .passedOver) ∨
      e.isUtterance = true ∧ e.isPassedOver = false ∧ ∃ a, c.verdict e now = .action a := by
  cases e with
  | phaseChange p => exact Or.inl ⟨rfl, rfl, rfl⟩
  | metrics m => exact Or.inl ⟨rfl, rfl, rfl⟩
  | utterance u =>
    right
    have hnone : c.moderator.judge u.transcript u.isFinal now = none ↔
        u.isFinal = false ∨ trim u.transcript.toList = [] := Moderator.judge_eq_none_iff
    cases hjudge : c.moderator.judge u.transcript u.isFinal now with
    | none =>
      left
      have hpassed := hnone.1 hjudge
      refine ⟨rfl, ?_, ?_⟩
      · simpa [Event.isPassedOver] using hpassed
      · simp only [verdict, hjudge]
    | some d =>
      right
      refine ⟨rfl, ?_, d.action, ?_⟩
      · have hheard : ¬(u.isFinal = false ∨ trim u.transcript.toList = []) := by
          intro hpassed
          rw [hnone.2 hpassed] at hjudge
          cases hjudge
        simpa [Event.isPassedOver] using hheard
      · simp only [verdict, hjudge]

/-- What the counters and the number of actions tell of the events alone. -/
structure Tally.Heeds (t : Tally) (acts : List Action) (es : List (Event × Instant)) : Prop where
  received : t.received = .ofNat es.length
  skipped : t.skipped = .ofNat (es.countP (·.1.isPassedOver))
  transcripts : acts.length + es.countP (·.1.isPassedOver) = es.countP (·.1.isUtterance)

theorem Tally.heeds_zero : Tally.zero.Heeds [] [] :=
  ⟨rfl, rfl, rfl⟩

/-- An event is counted, and so is what comes of it. -/
theorem Outbox.tally_note (o : Outbox) (v : Verdict) :
    (o.note v).tally =
      match v with
      | .other => o.tally.count .event
      | .passedOver => (o.tally.count .event).count .skipped
      | .action a => (o.tally.count .event).count (.action a) := by
  cases v with
  | other => rfl
  | passedOver => rfl
  | action a => exact Outbox.tally_dispatch _ a

/-- A classified transcript is an event, and is not skipped. -/
theorem Tally.count_action (t : Tally) (a : Action) :
    (t.count (.action a)).received = t.received ∧ (t.count (.action a)).skipped = t.skipped := by
  cases a <;> exact ⟨rfl, rfl⟩

theorem countP_snoc (p : Event → Bool) (es : List (Event × Instant)) (e : Event) (now : Instant) :
    (es ++ [(e, now)]).countP (p ·.1) = es.countP (p ·.1) + if p e then 1 else 0 := by
  rw [List.countP_append, List.countP_singleton]

theorem Tally.Heeds.note {o : Outbox} {acts : List Action} {es : List (Event × Instant)}
    (h : o.tally.Heeds acts es) (c : Context) (e : Event) (now : Instant) :
    (o.note (c.verdict e now)).tally.Heeds (acts ++ (c.verdict e now).action?.toList)
      (es ++ [(e, now)]) := by
  have hreceived : o.tally.received + 1 = .ofNat (es ++ [(e, now)]).length := by
    rw [List.length_append, h.received, UInt64.ofNat_add]
    rfl
  have htranscripts := h.transcripts
  have hpassed := countP_snoc Event.isPassedOver es e now
  have hutterance := countP_snoc Event.isUtterance es e now
  rw [Outbox.tally_note]
  rcases c.verdict_cases e now with ⟨hu, hp, hverdict⟩ | ⟨hu, hp, hverdict⟩ | ⟨hu, hp, a, hverdict⟩
  · -- it is no transcript
    rw [hu] at hutterance
    rw [hp] at hpassed
    rw [hverdict]
    refine ⟨hreceived, ?_, ?_⟩
    · rw [hpassed]
      exact h.skipped
    · show (acts ++ []).length + _ = _
      rw [hpassed, hutterance, List.append_nil]
      exact htranscripts
  · -- it is passed over
    rw [hu] at hutterance
    rw [hp] at hpassed
    rw [hverdict]
    refine ⟨hreceived, ?_, ?_⟩
    · show o.tally.skipped + 1 = _
      rw [hpassed, h.skipped, UInt64.ofNat_add]
      rfl
    · show (acts ++ []).length + _ = _
      rw [hpassed, hutterance, List.append_nil, if_pos rfl, ← htranscripts, Nat.add_assoc]
  · -- it calls for an action
    rw [hu] at hutterance
    rw [hp] at hpassed
    rw [hverdict]
    rcases (o.tally.count .event).count_action a with ⟨hsame, hsame'⟩
    refine ⟨hsame.trans hreceived, ?_, ?_⟩
    · rw [hpassed]
      exact hsame'.trans h.skipped
    · show (acts ++ [a]).length + _ = _
      rw [hpassed, hutterance, List.length_append, List.length_singleton, if_pos rfl,
        ← htranscripts]
      simp only [Bool.false_eq_true, if_false, Nat.add_zero]
      omega

/-! ## Every run -/

/-- What a host does adds to the failures at most. -/
theorem Traffic.tally_deal (t : Traffic) (d : Dealing) :
    (t.deal d).outbox.tally = t.outbox.tally ∨
      (t.deal d).outbox.tally = t.outbox.tally.count .failure := by
  cases d with
  | call i =>
    left
    simp only [deal]
    split <;> rfl
  | answer i refusal =>
    simp only [deal]
    split
    · show (t.outbox.answer refusal).tally = _ ∨ (t.outbox.answer refusal).tally = _
      rw [Outbox.answer_tally]
      cases refusal with
      | none => exact Or.inl rfl
      | some error => exact Or.inr rfl
    · exact Or.inl rfl

theorem Tally.Heeds.deal {t : Traffic} {acts : List Action} {es : List (Event × Instant)}
    (h : t.outbox.tally.Heeds acts es) (d : Dealing) :
    (t.deal d).outbox.tally.Heeds acts es := by
  rcases t.tally_deal d with heq | heq
  · rw [heq]
    exact h
  · rw [heq]
    exact ⟨h.received, h.skipped, h.transcripts⟩

/-- Every move keeps the counters in step with the events. -/
theorem Course.heeds_move {τ : Type} {k : Course τ} {es : List (Event × Instant)}
    (h : k.traffic.outbox.tally.Heeds k.actions es) (m : Move Dealing) :
    (k.move m).traffic.outbox.tally.Heeds (k.move m).actions (es ++ Move.events [m]) := by
  cases m with
  | event e now =>
    rcases k.move_event e now with ⟨htraffic, hactions⟩
    rw [htraffic, hactions]
    exact h.note _ e now
  | errands d =>
    show Tally.Heeds _ _ (es ++ [])
    rw [List.append_nil]
    exact h.deal d

theorem Course.heeds_run {τ : Type} (settings : Settings) (mode : HostMode) (notes : τ)
    (ms : List (Move Dealing)) :
    ((Course.fresh settings mode notes).run ms).traffic.outbox.tally.Heeds
      ((Course.fresh settings mode notes).run ms).actions (Move.events ms) := by
  induction ms using List.reverseRecOn with
  | nil => exact Tally.heeds_zero
  | append_singleton ms m ih =>
    rw [Course.run_append, Move.events_append]
    exact Course.heeds_move ih m

/-- Every record of a decision tells an action. -/
theorem Context.Told.length_actions {settings : Settings} {es : List (Event × Instant)}
    {c : Context} (h : c.Told settings es) :
    c.journal.actions.length = (c.journal.on Record.turnTopic).length := by
  rw [Journal.actions, List.length_filterMap_eq_countP, List.countP_eq_length]
  intro r hr
  rcases List.mem_filter.1 hr with ⟨hmem, htopic⟩
  rw [h.records] at hmem
  rcases mem_echoes_cases hmem with ⟨phase, rfl⟩ | ⟨turn, rfl⟩
  · have hne : Record.phaseTopic ≠ Record.turnTopic := by decide
    exact absurd (beq_iff_eq.1 htopic) hne
  · rfl

/-- The counters of a conversation agree with its events and its records. -/
theorem Context.Told.agrees {settings : Settings} {es : List (Event × Instant)} {c : Context}
    {t : Tally} {failed : Nat} (h : c.Told settings es)
    (htells : t.Tells c.journal.actions failed) (hheeds : t.Heeds c.journal.actions es) :
    t.Agrees es c.journal := by
  have hcount : ∀ a, c.journal.actions.count a =
      (c.journal.on Record.turnTopic).countP (·.action? == some a) := by
    intro a
    rw [Journal.actions, List.count_filterMap]
  refine ⟨hheeds.received, ?_, hheeds.skipped, ?_, ?_, ?_, ?_, ?_⟩
  · rw [htells.classified, hheeds.skipped, ← UInt64.ofNat_add, hheeds.transcripts]
  · rw [htells.classified, htells.interrupts, htells.clears, htells.noOps, ← UInt64.ofNat_add,
      ← UInt64.ofNat_add, ← Tally.length_eq_counts]
  · rw [htells.classified, h.length_actions]
  · rw [htells.interrupts, hcount]
  · rw [htells.clears, hcount]
  · rw [htells.noOps, hcount]

/-- The record of the usage is no decision. -/
theorem Tally.Agrees.conclude {t : Tally} {es : List (Event × Instant)} {j : Journal}
    (h : t.Agrees es j) (u : Usage) : t.Agrees es (j.add (.ofUsage u)) := by
  have hsame : (j.add (.ofUsage u)).on Record.turnTopic = j.on Record.turnTopic := by
    simp [Journal.on, Journal.add, Record.ofUsage, Record.usageTopic, Record.turnTopic]
  constructor
  · exact h.received
  · exact h.transcripts
  · exact h.skipped
  · exact h.balanced
  · rw [hsame]
    exact h.decisions
  · rw [hsame]
    exact h.interrupts
  · rw [hsame]
    exact h.clears
  · rw [hsame]
    exact h.noOps

/-- Whatever is counted, and in whatever order, as many transcripts stay classified as actions
called for. -/
theorem Tally.balanced_foldl {t : Tally} (h : t.Balanced) (entries : List Tally.Entry) :
    (entries.foldl Tally.count t).Balanced := by
  induction entries generalizing t with
  | nil => exact h
  | cons e entries ih => exact ih (h.count e)

namespace Conversation

variable {τ : Type}

theorem agrees_course (settings : Settings) (mode : HostMode) (notes : τ)
    (ms : List (Move Dealing)) {k : Course τ}
    (hk : k = (Course.fresh settings mode notes).run ms) :
    k.conversation.context.tally.Agrees (Move.events ms) k.conversation.context.journal := by
  subst hk
  have hkept := Course.kept_fresh_run settings mode notes ms
  exact (Course.told_run settings mode notes ms).agrees hkept.counted
    (Course.heeds_run settings mode notes ms)

theorem agrees_run (settings : Settings) (mode : HostMode) (notes : τ) (ms : List (Move Advance)) :
    let c := (fresh settings mode notes).run ms
    c.context.tally.Agrees (Move.events ms) c.context.journal := by
  intro c
  rcases exists_shownBy settings mode notes ms with ⟨ms', hevents, hshown⟩
  have hagrees := agrees_course settings mode notes ms' rfl
  have htally : ((Course.fresh settings mode notes).run ms').conversation.context.tally =
      c.context.tally := hshown.outbox.tally
  rw [htally, hevents, ← hshown.agree.journal] at hagrees
  exact hagrees

/-- At every moment, and in the final report, the counters agree with the events that a conversation
has handled and with the decisions that it has made known, at a host of any kind and at the hosts of
an outbox. And whatever is counted keeps the number of classified transcripts the sum of the numbers
of actions. -/
theorem counters_agree :
    (∀ (settings : Settings) (mode : HostMode) (notes : τ) (ms : List (Move Dealing))
        (refusals : UInt64),
      let k := (Course.fresh settings mode notes).run ms
      let report := (k.conversation.conclude refusals).1
      let ended := (k.conversation.conclude refusals).2.context
      k.conversation.context.tally.Agrees (Move.events ms) k.conversation.context.journal ∧
        report.tally.Agrees (Move.events ms) ended.journal) ∧
    (∀ (settings : Settings) (mode : HostMode) (notes : τ) (ms : List (Move Advance))
        (refusals : UInt64),
      let c := (fresh settings mode notes).run ms
      let report := (c.finish refusals).1
      let ended := (c.finish refusals).2.context
      c.context.tally.Agrees (Move.events ms) c.context.journal ∧
        report.tally.Agrees (Move.events ms) ended.journal) ∧
    ∀ (t : Tally) (entries : List Tally.Entry), t.Balanced →
      (entries.foldl Tally.count t).Balanced := by
  refine ⟨?_, ?_, ?_⟩
  · intro settings mode notes ms refusals k report ended
    have hagrees := agrees_course settings mode notes ms rfl
    exact ⟨hagrees, hagrees.conclude _⟩
  · intro settings mode notes ms refusals c report ended
    refine ⟨agrees_run settings mode notes ms, ?_⟩
    -- a conversation is finished by two more moves, which are no events
    have hagrees := agrees_run settings mode notes (ms ++ [.errands .openGate, .errands .settle])
    have hevents : Move.events (ms ++ [.errands .openGate, .errands .settle]) =
        Move.events ms := by
      rw [Move.events_append]
      exact List.append_nil _
    rw [run_finish, hevents] at hagrees
    exact hagrees.conclude _
  · intro t entries h
    exact Tally.balanced_foldl h entries

/-- Of four events three are transcripts; one may still change, one is blank and the third interrupts
the agent at a host that rejects this. -/
theorem counters_agree_rejected :
    let ms : List (Move Advance) :=
      [.event (.phaseChange ⟨.idle, .speaking, .onArrival⟩) ⟨0⟩,
        .event (.utterance ⟨"st", false, none, .onArrival⟩) ⟨1⟩,
        .event (.utterance ⟨"stop", true, none, .onArrival⟩) ⟨2⟩, .errands .settle,
        .event (.utterance ⟨" ", true, none, .onArrival⟩) ⟨3⟩]
    let finished := ((fresh .standard .rejecting ()).run ms).finish 0
    let entries : List Tally.Entry := [.action .clearTurn, .failure, .skipped, .event]
    finished.1.tally = ⟨4, 1, 2, 1, 0, 0, 1⟩ ∧
      finished.1.tally.Agrees (Move.events ms) finished.2.context.journal ∧
      finished.1.tally.Balanced ∧ (entries.foldl Tally.count finished.1.tally).Balanced := by
  intro ms finished entries
  have htally : finished.1.tally = ⟨4, 1, 2, 1, 0, 0, 1⟩ := by decide +kernel
  have hagrees := (counters_agree.2.1 .standard .rejecting () ms 0).2
  have hbalanced : finished.1.tally.Balanced := by
    rw [htally]
    rfl
  exact ⟨htally, hagrees, hbalanced, (counters_agree (τ := Unit)).2.2 _ entries hbalanced⟩

end Conversation

end TurnTaking
