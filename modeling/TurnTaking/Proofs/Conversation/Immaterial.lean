import TurnTaking.Proofs.Conversation.Decisions
/-!
# Events that make no difference

Most events of a conversation have no part in its decisions: transcripts that may still change or
hold nothing but blanks, measurements, and phase changes that neither enter nor leave speaking. The
others are material. And all but the measurements have no part in the usage.

The main statement is `decisions_of_material`: conversations with the same material events come to
the same decisions, and those with the same measurements to the same usage. So it does not matter
how the measurements are spread among the other events.
-/

namespace TurnTaking

open Text Time

/-! ## Material events -/

/-- Whether an event is a measurement. -/
def Event.isMetrics : Event → Bool
  | .metrics _ => true
  | _ => false

/-- Whether an event has a part in the decisions: a phase change that enters or leaves speaking
does, and a transcript that is not passed over. -/
def Event.isMaterial : Event → Bool
  | .phaseChange p => decide (p.old = .speaking ∨ p.new = .speaking)
  | .utterance u => u.isFinal && decide (trim u.transcript.toList ≠ [])
  | .metrics _ => false

/-- The material events among some others, in order. -/
def material (es : List (Event × Instant)) : List (Event × Instant) :=
  es.filter (·.1.isMaterial)

/-- The measurements among some events, in order. -/
def measurementsOf (es : List (Event × Instant)) : List Metrics :=
  es.filterMap fun
    | (.metrics m, _) => some m
    | _ => none

theorem material_snoc (es : List (Event × Instant)) (e : Event × Instant) :
    material (es ++ [e]) = material es ++ (if e.1.isMaterial then [e] else []) := by
  rw [material, material, List.filter_append]
  cases h : e.1.isMaterial <;> simp [h]

/-- A measurement is not material. -/
theorem material_of_not_metrics (es : List (Event × Instant)) :
    material (es.filter (!·.1.isMetrics)) = material es := by
  rw [material, material, List.filter_filter]
  refine List.filter_congr ?_
  intro e _
  cases e.1 <;> simp [Event.isMaterial, Event.isMetrics]

/-! ## What the floor tells -/

/-- The changes that touch the floor are those of the material events. -/
theorem touches_changesOf (es : List (Event × Instant)) :
    (changesOf (material es)).filter (·.touches) = (changesOf es).filter (·.touches) := by
  rw [changesOf, changesOf, material, List.filter_filterMap, List.filter_filterMap,
    List.filterMap_filter]
  refine List.filterMap_congr ?_
  intro e _
  rcases e with ⟨p | u | m, now⟩
  · have htouches := touches_eq p.old p.new
    cases hmaterial : Event.isMaterial (.phaseChange p) with
    | true => simp
    | false =>
      have hnot : Floor.Change.touches ⟨p.old, p.new, now⟩ = false := htouches.trans hmaterial
      simp [Option.filter, hnot]
  · simp
  · simp

theorem lastTouch_material (es : List (Event × Instant)) :
    Floor.lastTouch (changesOf (material es)) = Floor.lastTouch (changesOf es) := by
  rw [Floor.lastTouch, Floor.lastTouch, touches_changesOf]

/-- A floor is changed by what touches it alone. -/
theorem Floor.changed_filter (f : Floor) (cs : List Floor.Change) :
    f.changed (cs.filter (·.touches)) = f.changed cs := by
  induction cs generalizing f with
  | nil => rfl
  | cons c cs ih =>
    cases hc : c.touches with
    | true =>
      rw [List.filter_cons_of_pos hc]
      exact ih _
    | false =>
      have hsame : f.change c.old c.new c.time = f := change_of_not_touches hc f c.time
      rw [List.filter_cons_of_neg (by simp [hc]), ih]
      show _ = (f.change c.old c.new c.time).changed cs
      rw [hsame]

theorem changed_material (f : Floor) (es : List (Event × Instant)) :
    f.changed (changesOf (material es)) = f.changed (changesOf es) := by
  rw [← Floor.changed_filter, touches_changesOf, Floor.changed_filter]

/-! ## The records of turns -/

section Turns

variable {settings : Settings}

/-- The records of turns among some records. -/
def turns (rs : List Record) : List Record :=
  rs.filter (·.topic == Record.turnTopic)

/-- An event that is not material has no record of a turn, and those of the others depend on the
material events before them alone. -/
theorem turns_echo (before : List (Event × Instant)) (e : Event) (now : Instant) :
    turns (echo? settings before e now).toList =
      if e.isMaterial then turns (echo? settings (material before) e now).toList else [] := by
  cases e with
  | phaseChange p =>
    have hnone : ∀ before, turns (echo? settings before (.phaseChange p) now).toList = [] :=
      fun _ => rfl
    rw [hnone, hnone, ite_self]
  | metrics m => rfl
  | utterance u =>
    have hcues : cuesAfter settings before u.transcript now =
        cuesAfter settings (material before) u.transcript now := by
      simp only [cuesAfter, overlapsAfter, lastTouch_material]
    by_cases hheard : u.isFinal ∧ trim u.transcript.toList ≠ []
    · have hmaterial : Event.isMaterial (.utterance u) = true := by
        simp [Event.isMaterial, hheard.1, hheard.2]
      rw [hmaterial, if_pos rfl, echo?, echo?, hcues]
    · rw [echo?, echo?, if_neg hheard, if_neg hheard]
      exact (ite_self _).symm

theorem turns_echoesAfter (before es : List (Event × Instant)) :
    turns (echoesAfter settings before es) =
      turns (echoesAfter settings (material before) (material es)) := by
  induction es generalizing before with
  | nil => rfl
  | cons e es ih =>
    have hfirst : turns (echo? settings before e.1 e.2).toList =
        if e.1.isMaterial then turns (echo? settings (material before) e.1 e.2).toList else [] :=
      turns_echo before e.1 e.2
    have hrest := ih (before ++ [e])
    rw [material_snoc] at hrest
    show turns ((echo? settings before e.1 e.2).toList ++ echoesAfter settings (before ++ [e]) es) =
      _
    rw [turns, List.filter_append]
    show turns _ ++ turns _ = _
    rw [hfirst, hrest]
    cases hmaterial : e.1.isMaterial with
    | true =>
      have hcons : material (e :: es) = e :: material es := List.filter_cons_of_pos hmaterial
      rw [hcons, if_pos rfl, if_pos rfl]
      exact (List.filter_append _ _).symm
    | false =>
      have hskip : material (e :: es) = material es := List.filter_cons_of_neg (by simp [hmaterial])
      rw [hskip, if_neg (by decide), if_neg (by decide), List.append_nil]
      rfl

end Turns

/-! ## The usage -/

theorem measurementsOf_snoc (es : List (Event × Instant)) (e : Event × Instant) :
    measurementsOf (es ++ [e]) = measurementsOf es ++ measurementsOf [e] := by
  rw [measurementsOf, measurementsOf, measurementsOf, List.filterMap_append]

/-- Only measurements have a part in the usage. -/
theorem Context.usage_hear (c : Context) (e : Event) (now : Instant) :
    (c.hear e now).usage = c.usage.collectAll (measurementsOf [(e, now)]) := by
  cases e with
  | phaseChange p => rfl
  | metrics m => rfl
  | utterance u =>
    rcases c.hear_utterance_cases u now with ⟨-, heq⟩ | ⟨d, -, heq⟩
    · rw [heq]
      rfl
    · rw [heq]
      rfl

namespace Conversation

variable {τ τ' : Type} {settings : Settings} {es es' : List (Event × Instant)}
  {ds ds' : List (Option Decision)} {c : Conversation τ} {c' : Conversation τ'}

/-- The usage of a conversation is that of its measurements. -/
theorem Handled.usage_eq (h : c.Handled settings es ds) :
    c.context.usage = Usage.zero.collectAll (measurementsOf es) := by
  apply h.kept (P := fun es c => c.usage = Usage.zero.collectAll (measurementsOf es))
  · intro mode
    rfl
  · intro es c e now hc
    rw [c.usage_hear, hc, measurementsOf_snoc, Usage.collectAll, Usage.collectAll,
      Usage.collectAll, List.foldl_append]
  · intro es c d hagree hc
    rw [← hagree.usage]
    exact hc

/-- The records of turns of a conversation are those of its material events. -/
theorem Handled.turns_eq (h : c.Handled settings es ds) :
    c.context.journal.on Record.turnTopic = turns (echoes settings (material es)) := by
  show turns c.context.journal.records = _
  rw [h.told.records, echoes, turns_echoesAfter]
  rfl

/-- The floor is that of the material events. -/
theorem Handled.floor_eq (h : c.Handled settings es ds) :
    c.context.moderator.floor = Floor.quiet.changed (changesOf (material es)) := by
  rw [h.told.floor, changed_material]

/-- What two conversations have in common that have come to the same decisions. -/
structure SameDecisions (c : Conversation τ) (c' : Conversation τ') : Prop where
  /-- They have made the same records of turns. -/
  turns : c.context.journal.on Record.turnTopic = c'.context.journal.on Record.turnTopic
  interrupts : c.context.tally.interrupts = c'.context.tally.interrupts
  clears : c.context.tally.clears = c'.context.tally.clears
  noOps : c.context.tally.noOps = c'.context.tally.noOps
  /-- For both the agent speaks or not, and has begun and stopped at the same instants. -/
  floor : c.context.moderator.floor = c'.context.moderator.floor

theorem sameDecisions_of_material (h : c.Handled settings es ds) (h' : c'.Handled settings es' ds')
    (hsame : material es = material es') : c.SameDecisions c' := by
  have hturns : c.context.journal.on Record.turnTopic = c'.context.journal.on Record.turnTopic := by
    rw [h.turns_eq, h'.turns_eq, hsame]
  have hactions : c.context.journal.actions = c'.context.journal.actions := by
    rw [Journal.actions, Journal.actions, hturns]
  rcases h.tells with ⟨failed, htells⟩
  rcases h'.tells with ⟨failed', htells'⟩
  rw [← hactions] at htells'
  constructor
  · exact hturns
  · exact htells.interrupts.trans htells'.interrupts.symm
  · exact htells.clears.trans htells'.clears.symm
  · exact htells.noOps.trans htells'.noOps.symm
  · rw [h.floor_eq, h'.floor_eq, hsame]

/-- The decisions of a conversation are those about its material events. -/
theorem Handled.decisions_eq_of_material (h : c.Handled settings es ds)
    (h' : c'.Handled settings es' ds') (hsame : material es = material es') :
    ds.reduceOption = ds'.reduceOption := by
  have hreports : c.context.journal.turnReports = c'.context.journal.turnReports :=
    congrArg (List.filterMap Record.turn?) (sameDecisions_of_material h h' hsame).turns
  rw [h.decisions_told, h'.decisions_told, hreports]

theorem Handled.requests_eq_of_material (h : c.Handled settings es ds)
    (h' : c'.Handled settings es' ds') (hsame : material es = material es') :
    requestsOf ds = requestsOf ds' := by
  rw [← h.requests_eq, ← h'.requests_eq, h.actions_eq, h'.actions_eq,
    h.decisions_eq_of_material h' hsame]

/-- Two conversations under the same settings. If their material events are the same, because others
have been left out, added or moved, they come to the same decisions, records of turns, requests,
counters of actions and floor. If their measurements are the same, whatever other events have been
left out, added or moved, they report the same usage. So the same measurements spread otherwise
among the same other events change neither. -/
theorem decisions_of_material (h : c.Handled settings es ds) (h' : c'.Handled settings es' ds') :
    (material es = material es' →
      ds.reduceOption = ds'.reduceOption ∧ c.SameDecisions c' ∧
        ∀ (mode mode' : HostMode) (notes : τ) (notes' : τ') (ms ms' : List (Move Dealing)),
          Move.events ms = es → Move.events ms' = es' →
          ((Course.fresh settings mode notes).run ms).log.made =
            ((Course.fresh settings mode' notes').run ms').log.made) ∧
    (measurementsOf es = measurementsOf es' → ∀ refusals refusals' : UInt64,
      (c.conclude refusals).1.usage = (c'.conclude refusals').1.usage ∧
        (c.finish refusals).1.usage = (c'.finish refusals').1.usage) ∧
    (es.filter (!·.1.isMetrics) = es'.filter (!·.1.isMetrics) →
      measurementsOf es = measurementsOf es' →
      ds.reduceOption = ds'.reduceOption ∧ c.SameDecisions c' ∧ requestsOf ds = requestsOf ds' ∧
        c.context.usage = c'.context.usage) := by
  have husage : measurementsOf es = measurementsOf es' → c.context.usage = c'.context.usage := by
    intro hsame
    rw [h.usage_eq, h'.usage_eq, hsame]
  refine ⟨?_, ?_, ?_⟩
  · intro hsame
    refine ⟨h.decisions_eq_of_material h' hsame, sameDecisions_of_material h h' hsame, ?_⟩
    intro mode mode' notes notes' ms ms' hevents hevents'
    rw [Course.made_eq, Course.made_eq, hevents, hevents', ← h.decisions_eq, ← h'.decisions_eq]
    exact h.requests_eq_of_material h' hsame
  · intro hsame refusals refusals'
    exact ⟨husage hsame, husage hsame⟩
  · intro hothers hmeasurements
    have hsame : material es = material es' := by
      rw [← material_of_not_metrics es, ← material_of_not_metrics es', hothers]
    exact ⟨h.decisions_eq_of_material h' hsame, sameDecisions_of_material h h' hsame,
      h.requests_eq_of_material h' hsame, husage hmeasurements⟩

/-- A transcript that may still change, one of blanks, a measurement and a phase change from
thinking to listening are left out. -/
theorem decisions_of_material_left_out :
    let speaks : Event × Instant := (.phaseChange ⟨.thinking, .speaking, .onArrival⟩, ⟨0⟩)
    let stop : Event × Instant := (.utterance ⟨"stop", true, none, .onArrival⟩, ⟨4⟩)
    let measured : Event × Instant := (.metrics (.llm 12 30 7), ⟨2⟩)
    let es : List (Event × Instant) :=
      [speaks, (.utterance ⟨"sto", false, none, .onArrival⟩, ⟨1⟩), measured,
        (.utterance ⟨" ", true, none, .onArrival⟩, ⟨3⟩),
        (.phaseChange ⟨.thinking, .listening, .onArrival⟩, ⟨3⟩), stop]
    let es' : List (Event × Instant) := [speaks, stop, measured]
    let moves (es : List (Event × Instant)) : List (Move Advance) :=
      es.map fun e => .event e.1 e.2
    let reached (es : List (Event × Instant)) := (fresh .standard .willing ()).run (moves es)
    let decided (es : List (Event × Instant)) := (fresh .standard .willing ()).decisions (moves es)
    material es = material es' ∧ measurementsOf es = measurementsOf es' ∧
      (decided es').map (·.map (·.action)) = [none, some .interrupt, none] ∧
      (decided es).reduceOption = (decided es').reduceOption ∧
      (reached es).SameDecisions (reached es') ∧
      ((reached es).finish 0).1.usage = ((reached es').finish 0).1.usage := by
  intro speaks stop measured es es' moves reached decided
  have hmaterial : material es = material es' := by decide +kernel
  have hmeasurements : measurementsOf es = measurementsOf es' := rfl
  have h : (reached es).Handled .standard es (decided es) := .ownHost .willing () (moves es)
  have h' : (reached es').Handled .standard es' (decided es') := .ownHost .willing () (moves es')
  rcases decisions_of_material h h' with ⟨hdecisions, husage, -⟩
  rcases hdecisions hmaterial with ⟨hsame, hcourse, -⟩
  exact ⟨hmaterial, hmeasurements, by decide +kernel, hsame, hcourse, (husage hmeasurements 0 0).2⟩

end Conversation

end TurnTaking
