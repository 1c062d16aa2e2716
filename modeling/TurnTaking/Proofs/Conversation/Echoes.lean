import TurnTaking.Proofs.Conversation.Course
import TurnTaking.Proofs.Moderator.Judgement
/-!
# What a conversation makes known

Every event has at most one record, which is settled by the event and by what came before it
(`echo?`): a phase change is always echoed, a final transcript that does not hold only blanks is
echoed with its cues and what they call for, and nothing else is. The records of a conversation are
those of its events in order, and then the usage; what happens to its errands in between makes no
difference. Topics and fields are written out here, and so are the names under which the fields are
sent (`Record.sent`).

The main statement is `records_finish`.
-/

namespace TurnTaking

open Text Time

/-! ## The record of an event -/

/-- The phase changes among some events. -/
def changesOf (es : List (Event × Instant)) : List Floor.Change :=
  es.filterMap fun
    | (.phaseChange p, now) => some ⟨p.old, p.new, now⟩
    | _ => none

/-- Whether the agent speaks: the latest change that entered or left speaking has entered it. -/
def speaksAfter (cs : List Floor.Change) : Bool :=
  (Floor.lastTouch cs).any (·.new == .speaking)

/-- Whether what is said now overlaps the agent's speech: the latest change that entered or left
speaking has entered it, or has left it less than the grace window ago. -/
def overlapsAfter (cs : List Floor.Change) (now : Instant) (grace : Duration) : Bool :=
  (Floor.lastTouch cs).any fun c => c.new == .speaking || decide (now.since c.time < grace)

/-- The cues of a transcript that comes after some events. -/
def cuesAfter (settings : Settings) (before : List (Event × Instant)) (transcript : String)
    (now : Instant) : Cues :=
  let said := wordsOf (Cues.heard transcript)
  { backchannel := said.words.any settings.vocabulary.backchannels.recognises
    command := said.words.any settings.vocabulary.commands.recognises
    overlapping := overlapsAfter (changesOf before) now settings.grace }

/-- The record of an event that comes after some others, if it has one. -/
def echo? (settings : Settings) (before : List (Event × Instant)) (e : Event) (now : Instant) :
    Option Record :=
  match e with
  | .phaseChange p =>
    some ⟨"agent:state_changed", .phaseChange
      { old := p.old
        new := p.new
        speaking := speaksAfter (changesOf (before ++ [(.phaseChange p, now)]))
        touched := decide (p.old = .speaking ∨ p.new = .speaking)
        createdAt := p.createdAt }⟩
  | .utterance u =>
    if u.isFinal ∧ trim u.transcript.toList ≠ [] then
      let cues := cuesAfter settings before u.transcript now
      some ⟨"turn:decision", .turn
        { transcript := u.transcript
          cues := cues
          action :=
            if cues.overlapping ∧ cues.command then .interrupt
            else if cues.overlapping ∧ cues.backchannel then .clearTurn
            else .noOp }⟩
    else none
  | .metrics _ => none

/-- The records of some events that come after others, in order. -/
def echoesAfter (settings : Settings) (before : List (Event × Instant)) :
    List (Event × Instant) → List Record
  | [] => []
  | (e, now) :: es =>
    (echo? settings before e now).toList ++ echoesAfter settings (before ++ [(e, now)]) es

/-- The records of some events, in order. -/
def echoes (settings : Settings) (es : List (Event × Instant)) : List Record :=
  echoesAfter settings [] es

/-- A record as it is sent, where `arrival` is the text for things created on arrival. -/
def Record.sent (arrival : String) (r : Record) : Json :=
  let payload : Json := match r.payload with
    | .phaseChange report => .obj
      [("old_state", .str report.old.label), ("new_state", .str report.new.label),
        ("speaking", .bool report.speaking), ("tracker_updated", .bool report.touched),
        ("created_at", .str (report.createdAt.text arrival))]
    | .turn report => .obj
      [("transcript", .str report.transcript), ("overlapping", .bool report.cues.overlapping),
        ("soft", .bool report.cues.backchannel), ("hard", .bool report.cues.command),
        ("action", .str report.action.label)]
    | .usage u => .obj
      [("llm_prompt_tokens", .nat u.llmPromptTokens),
        ("llm_completion_tokens", .nat u.llmCompletionTokens),
        ("llm_duration_ms", .nat u.llmDurationMs), ("tts_characters", .nat u.ttsCharacters),
        ("tts_audio_duration_ms", .nat u.ttsAudioDurationMs),
        ("stt_audio_duration_ms", .nat u.sttAudioDurationMs), ("eou_count", .nat u.eouCount),
        ("eou_delay_total_ms", .nat u.eouDelayTotalMs)]
    | .other value => value
  .obj [("topic", .str r.topic), ("payload", payload)]

variable {settings : Settings}

/-- The record of a transcript tells its cues and what these call for. -/
theorem echo?_utterance (before : List (Event × Instant)) (u : Utterance) (now : Instant) :
    echo? settings before (.utterance u) now =
      if u.isFinal ∧ trim u.transcript.toList ≠ [] then
        some (.ofTurn ⟨u.transcript, cuesAfter settings before u.transcript now,
          (cuesAfter settings before u.transcript now).action⟩)
      else none := by
  rw [echo?, Cues.action_eq]
  rfl

theorem echoesAfter_append (before es fs : List (Event × Instant)) :
    echoesAfter settings before (es ++ fs) =
      echoesAfter settings before es ++ echoesAfter settings (before ++ es) fs := by
  induction es generalizing before with
  | nil => rw [List.append_nil, List.nil_append, echoesAfter, List.nil_append]
  | cons e es ih =>
    have hbefore : before ++ [e] ++ es = before ++ e :: es := by
      rw [List.append_assoc, List.singleton_append]
    show (echo? settings before e.1 e.2).toList ++ echoesAfter settings (before ++ [e]) (es ++ fs) =
      ((echo? settings before e.1 e.2).toList ++ echoesAfter settings (before ++ [e]) es) ++ _
    rw [ih, hbefore, List.append_assoc]

/-- One more event adds its own record. -/
theorem echoes_snoc (es : List (Event × Instant)) (e : Event) (now : Instant) :
    echoes settings (es ++ [(e, now)]) =
      echoes settings es ++ (echo? settings es e now).toList := by
  have hlast : echoesAfter settings ([] ++ es) [(e, now)] = (echo? settings es e now).toList := by
    simp only [echoesAfter, List.nil_append, List.append_nil]
  rw [echoes, echoesAfter_append, hlast]
  rfl

theorem Record.toJson_eq_sent (arrival : String) (r : Record) : r.toJson arrival = r.sent arrival := by
  rcases r with ⟨topic, report | report | usage | value⟩ <;> rfl

/-- The record of an event reports a phase change or a turn. -/
theorem echo_cases {es : List (Event × Instant)} {e : Event} {now : Instant} {r : Record}
    (h : echo? settings es e now = some r) :
    (∃ report, r = ⟨"agent:state_changed", .phaseChange report⟩) ∨
      ∃ report, r = ⟨"turn:decision", .turn report⟩ := by
  cases e with
  | phaseChange p => exact Or.inl ⟨_, (Option.some.inj h).symm⟩
  | metrics m => cases h
  | utterance u =>
    rw [echo?] at h
    split at h
    · exact Or.inr ⟨_, (Option.some.inj h).symm⟩
    · cases h

theorem mem_echoes_cases {es : List (Event × Instant)} {r : Record}
    (h : r ∈ echoes settings es) :
    (∃ report, r = ⟨"agent:state_changed", .phaseChange report⟩) ∨
      ∃ report, r = ⟨"turn:decision", .turn report⟩ := by
  induction es using List.reverseRecOn with
  | nil => cases h
  | append_singleton es e ih =>
    rw [echoes_snoc] at h
    rcases List.mem_append.1 h with hbefore | hlast
    · exact ih hbefore
    · exact echo_cases (Option.mem_toList.1 hlast)

/-! ## What the floor tells -/

theorem changesOf_snoc (es : List (Event × Instant)) (e : Event) (now : Instant) :
    changesOf (es ++ [(e, now)]) = changesOf es ++ changesOf [(e, now)] := by
  rw [changesOf, changesOf, changesOf, List.filterMap_append]

/-- A floor knows whether the agent speaks. -/
theorem speaking_changed (cs : List Floor.Change) :
    (Floor.quiet.changed cs).speaking = speaksAfter cs := by
  have htells := Floor.changed_of_lastTouch cs
  unfold speaksAfter
  cases hlast : Floor.lastTouch cs with
  | none =>
    rw [hlast] at htells
    have hquiet : Floor.quiet.changed cs = Floor.quiet := htells
    rw [hquiet]
    rfl
  | some c =>
    rw [hlast] at htells
    simp only [Floor.Tells] at htells
    split at htells
    · rename_i hnew
      rw [htells.1, Option.any_some, hnew]
      rfl
    · rename_i hnew
      rw [htells.1, Option.any_some]
      exact (beq_eq_false_iff_ne.2 hnew).symm

theorem overlaps_changed (cs : List Floor.Change) (now : Instant) (grace : Duration) :
    (Floor.quiet.changed cs).overlaps now grace = overlapsAfter cs now grace := by
  rw [Bool.eq_iff_iff, Floor.overlaps_changed_iff, overlapsAfter]
  cases Floor.lastTouch cs with
  | none => simp
  | some c => simp

/-- The cues of a transcript that does not hold only blanks. -/
theorem ofTranscript_changed (settings : Settings) {transcript : String}
    (es : List (Event × Instant)) (now : Instant) (h : trim transcript.toList ≠ []) :
    Cues.ofTranscript transcript (Floor.quiet.changed (changesOf es)) now settings.grace
      settings.vocabulary = some (cuesAfter settings es transcript now) := by
  have hheard : (Cues.heard transcript).isEmpty = false := by
    rw [List.isEmpty_eq_false_iff]
    intro hnil
    exact h ((Cues.heard_eq_nil_iff transcript).1 hnil)
  rw [Cues.ofTranscript, hheard, overlaps_changed]
  rfl

theorem touches_eq (old new : Phase) :
    Floor.touches old new = decide (old = .speaking ∨ new = .speaking) := by
  cases old <;> cases new <;> rfl

/-! ## What an event makes known -/

/-- A conversation that has been told of some events, and has echoed them. -/
structure Context.Told (settings : Settings) (es : List (Event × Instant)) (c : Context) :
    Prop where
  ruled : c.moderator.settings = settings
  floor : c.moderator.floor = Floor.quiet.changed (changesOf es)
  records : c.journal.records = echoes settings es

namespace Context

variable {es : List (Event × Instant)} {c d : Context}

theorem told_fresh (settings : Settings) (mode : HostMode) :
    (fresh settings mode).Told settings [] :=
  ⟨rfl, rfl, rfl⟩

/-- A conversation that knows and has reported the same has been told the same. -/
theorem Told.congr (h : c.Told settings es) (hagree : c.Agree d) : d.Told settings es := by
  rcases hagree with ⟨hmoderator, -, hjournal⟩
  constructor
  · rw [← hmoderator]
    exact h.ruled
  · rw [← hmoderator]
    exact h.floor
  · rw [← hjournal]
    exact h.records

/-- A moderator that has been told of some events decides about a transcript by its cues after
them. -/
theorem Told.judge (h : c.Told settings es) (u : Utterance) (now : Instant) :
    c.moderator.judge u.transcript u.isFinal now =
      if u.isFinal ∧ trim u.transcript.toList ≠ [] then
        some ⟨cuesAfter settings es u.transcript now,
          (cuesAfter settings es u.transcript now).action⟩
      else none := by
  split
  · rename_i hheard
    have hcues := ofTranscript_changed settings es now hheard.2
    rw [← h.floor, ← h.ruled] at hcues
    rw [Moderator.judge, if_pos hheard.1, hcues, h.ruled]
    rfl
  · rename_i hheard
    rw [Moderator.judge_eq_none_iff]
    by_cases hfinal : u.isFinal = true
    · right
      by_contra hblank
      exact hheard ⟨hfinal, hblank⟩
    · left
      exact Bool.eq_false_iff.2 hfinal

/-- The record of a transcript tells what is decided about it. -/
theorem Told.echo_utterance (h : c.Told settings es) (u : Utterance) (now : Instant) :
    echo? settings es (.utterance u) now =
      (c.moderator.judge u.transcript u.isFinal now).map fun d =>
        .ofTurn ⟨u.transcript, d.cues, d.action⟩ := by
  rw [h.judge u now, echo?_utterance]
  split <;> rfl

/-- A conversation that is told of one more event makes its record known, if it has one. -/
theorem Told.hear (h : c.Told settings es) (e : Event) (now : Instant) :
    (c.hear e now).Told settings (es ++ [(e, now)]) := by
  cases e with
  | phaseChange p =>
    -- the record tells of the floor after the change
    have hchanges : changesOf (es ++ [(.phaseChange p, now)]) =
        changesOf es ++ [⟨p.old, p.new, now⟩] := changesOf_snoc es _ now
    have hfloor : c.moderator.floor.change p.old p.new now =
        Floor.quiet.changed (changesOf (es ++ [(.phaseChange p, now)])) := by
      rw [hchanges, Floor.changed_snoc, h.floor]
    refine ⟨h.ruled, hfloor, ?_⟩
    show c.journal.records ++ [.ofPhaseChange ⟨p.old, p.new,
      (c.moderator.floor.change p.old p.new now).speaking, Floor.touches p.old p.new,
      p.createdAt⟩] = _
    rw [hfloor, speaking_changed, touches_eq, h.records, echoes_snoc]
    rfl
  | metrics m =>
    have hchanges : changesOf (es ++ [(.metrics m, now)]) = changesOf es := by
      rw [changesOf_snoc]
      exact List.append_nil _
    refine ⟨h.ruled, ?_, ?_⟩
    · rw [hchanges]
      exact h.floor
    · rw [echoes_snoc]
      show c.journal.records = echoes settings es ++ []
      rw [h.records, List.append_nil]
  | utterance u =>
    -- the floor stays as it is, and there is a record just if there is a decision
    have hchanges : changesOf (es ++ [(.utterance u, now)]) = changesOf es := by
      rw [changesOf_snoc]
      exact List.append_nil _
    have hecho := h.echo_utterance u now
    rcases c.hear_utterance_cases u now with ⟨hjudge, heq⟩ | ⟨d, hjudge, heq⟩
    · rw [hjudge] at hecho
      rw [heq]
      refine ⟨h.ruled, hchanges ▸ h.floor, ?_⟩
      rw [echoes_snoc, hecho]
      show c.journal.records = echoes settings es ++ []
      rw [h.records, List.append_nil]
    · rw [hjudge] at hecho
      rw [heq]
      refine ⟨h.ruled, hchanges ▸ h.floor, ?_⟩
      rw [echoes_snoc, hecho]
      show c.journal.records ++ [.ofTurn ⟨u.transcript, d.cues, d.action⟩] = _
      rw [h.records]
      rfl

end Context

/-! ## What a conversation makes known -/

/-- The journal tells of some events in order, and then, and nowhere else, of the usage. Its records
are sent with these fields. -/
structure Journal.Complete (settings : Settings) (es : List (Event × Instant)) (usage : Usage)
    (j : Journal) : Prop where
  records : j.records = echoes settings es ++ [⟨"session:usage", .usage usage⟩]
  once : j.records.filter (·.topic == "session:usage") = [⟨"session:usage", .usage usage⟩]
  sent : ∀ arrival, j.records.map (·.toJson arrival) = j.records.map (·.sent arrival)

/-- Every move is told to the conversation if it is an event, and tells it nothing if it is not. -/
theorem Course.told_move {τ : Type} {settings : Settings} {k : Course τ}
    {es : List (Event × Instant)} (h : k.conversation.context.Told settings es)
    (m : Move Dealing) :
    (k.move m).conversation.context.Told settings (es ++ Move.events [m]) := by
  cases m with
  | event e now =>
    show (k.conversation.handle Conversation.standardRoutes e now).context.Told settings _
    rw [Conversation.handle_standardRoutes]
    exact h.hear e now
  | errands d =>
    show Context.Told settings (es ++ []) _
    rw [List.append_nil]
    exact h.congr ⟨rfl, rfl, rfl⟩

/-- At a host of any kind a conversation has made known the records of its events. -/
theorem Course.told_run {τ : Type} (settings : Settings) (mode : HostMode) (notes : τ)
    (ms : List (Move Dealing)) :
    ((Course.fresh settings mode notes).run ms).conversation.context.Told settings
      (Move.events ms) := by
  -- the record of an event depends on those before it, so the induction is on the last move
  induction ms using List.reverseRecOn with
  | nil => exact Context.told_fresh settings mode
  | append_singleton ms m ih =>
    rw [Course.run_append, Move.events_append]
    exact Course.told_move ih m

namespace Conversation

variable {τ : Type}

/-- At its own host a conversation has made known the records of its events. -/
theorem told_run (settings : Settings) (mode : HostMode) (notes : τ) (ms : List (Move Advance)) :
    ((fresh settings mode notes).run ms).context.Told settings (Move.events ms) := by
  rcases exists_shownBy settings mode notes ms with ⟨ms', hevents, hshown⟩
  have htold := Course.told_run settings mode notes ms'
  rw [hevents] at htold
  exact htold.congr hshown.agree.symm

/-- A conversation that concludes makes its usage known last, and nowhere else. -/
theorem complete_conclude {c : Conversation τ} {es : List (Event × Instant)}
    (h : c.context.Told settings es) (refusals : UInt64) :
    (c.conclude refusals).2.context.journal.Complete settings es
      (c.conclude refusals).1.usage := by
  have hrecords : (c.conclude refusals).2.context.journal.records =
      echoes settings es ++ [⟨"session:usage", .usage c.context.usage⟩] := by
    show c.context.journal.records ++ [.ofUsage c.context.usage] = _
    rw [h.records]
    rfl
  -- no event has a record with the topic of the usage
  have hnone : (echoes settings es).filter (·.topic == "session:usage") = [] := by
    rw [List.filter_eq_nil_iff]
    intro r hr
    rw [beq_iff_eq]
    rcases mem_echoes_cases hr with ⟨phase, rfl⟩ | ⟨turn, rfl⟩
    · show "agent:state_changed" ≠ "session:usage"
      decide
    · show "turn:decision" ≠ "session:usage"
      decide
  refine ⟨hrecords, ?_, ?_⟩
  · rw [hrecords, List.filter_append, hnone]
    rfl
  · intro arrival
    exact List.map_congr_left fun r _ => r.toJson_eq_sent arrival

/-- Whatever happens to its errands in between, a conversation makes known the records of its events
in the order in which it handles them, and last, and once, its usage as it is reported. So it is at
a host of any kind, and when a conversation at one of the hosts of an outbox is finished. -/
theorem records_finish :
    (∀ (settings : Settings) (mode : HostMode) (notes : τ) (ms : List (Move Dealing))
        (refusals : UInt64),
      let k := (Course.fresh settings mode notes).run ms
      let ended := k.conversation.conclude refusals
      ended.2.context.journal.Complete settings (Move.events ms) ended.1.usage) ∧
    ∀ (settings : Settings) (mode : HostMode) (notes : τ) (ms : List (Move Advance))
        (refusals : UInt64),
      let ended := ((fresh settings mode notes).run ms).finish refusals
      ended.2.context.journal.Complete settings (Move.events ms) ended.1.usage := by
  constructor
  · intro settings mode notes ms refusals k ended
    exact complete_conclude (Course.told_run settings mode notes ms) refusals
  · intro settings mode notes ms refusals ended
    -- finishing the errands leaves the journal as it is
    have htold := told_run settings mode notes ms
    have hdone : (((fresh settings mode notes).run ms).withOutbox
        ((fresh settings mode notes).run ms).context.outbox.finish).context.Told settings
          (Move.events ms) :=
      htold.congr ⟨rfl, rfl, rfl⟩
    exact complete_conclude hdone refusals

/-- A command interrupts the agent while it speaks, and a backchannel is cleared within the grace
window, but nothing is done when that is over. Transcripts that are not final or hold only blanks
leave no record, and neither do measurements. -/
theorem records_finish_interrupted :
    let ms : List (Move Advance) :=
      [.event (.phaseChange ⟨.thinking, .speaking, .onArrival⟩) ⟨0⟩,
        .event (.utterance ⟨"stop", false, none, .onArrival⟩) ⟨1⟩,
        .event (.utterance ⟨" Stop, please! ", true, some "guest", .onArrival⟩) ⟨2⟩,
        .errands .settle,
        .event (.metrics (.llm 7 5 3)) ⟨3⟩,
        .event (.phaseChange ⟨.speaking, .listening, .onArrival⟩) ⟨4⟩,
        .event (.utterance ⟨"Yeah.", true, none, .onArrival⟩) ⟨5⟩,
        .event (.utterance ⟨" ", true, none, .onArrival⟩) ⟨6⟩,
        .event (.phaseChange ⟨.listening, .thinking, .onArrival⟩) ⟨7⟩,
        .event (.utterance ⟨"yeah", true, none, .onArrival⟩) ⟨3000000000⟩]
    let settings : Settings := ⟨.ofOverrides (some "yeah") (some "stop"), .ofParts 2 0⟩
    let ended := ((fresh settings .willing ()).run ms).finish 0
    ended.2.context.journal.records =
      [⟨"agent:state_changed", .phaseChange ⟨.thinking, .speaking, true, true, .onArrival⟩⟩,
        ⟨"turn:decision", .turn ⟨" Stop, please! ", ⟨false, true, true⟩, .interrupt⟩⟩,
        ⟨"agent:state_changed", .phaseChange ⟨.speaking, .listening, false, true, .onArrival⟩⟩,
        ⟨"turn:decision", .turn ⟨"Yeah.", ⟨true, false, true⟩, .clearTurn⟩⟩,
        ⟨"agent:state_changed", .phaseChange ⟨.listening, .thinking, false, false, .onArrival⟩⟩,
        ⟨"turn:decision", .turn ⟨"yeah", ⟨true, false, false⟩, .noOp⟩⟩,
        ⟨"session:usage", .usage ⟨7, 5, 3, 0, 0, 0, 0, 0⟩⟩] := by
  intro ms settings ended
  have husage : ended.1.usage = ⟨7, 5, 3, 0, 0, 0, 0, 0⟩ := by decide +kernel
  have hcomplete : ended.2.context.journal.Complete settings (Move.events ms) ended.1.usage :=
    records_finish.2 settings .willing () ms 0
  rw [hcomplete.records, husage]
  rfl

end Conversation

end TurnTaking
