import TurnTaking.Proofs.Conversation.Decisions
/-!
# The same events under other settings

Two conversations handle the same events under different settings. Place by place they decide about
the same transcripts, since that is no matter of settings. What they decide is compared here for
other word lists and for another grace window, at hosts of any kind and whatever happens to the
errands of either. What they report compares as what they decide does (`forall₂_reports`).

The main statements are `vocabulary_separates`, that each word list has its own part in the
decisions, and `grace_widens`, that with a longer grace window all that was done is still done.
-/

namespace TurnTaking

open Text Time

/-! ## Place by place -/

section Places

variable {settings settings' : Settings}

/-- The decision that some cues call for. -/
def Cues.decision (c : Cues) : Decision :=
  ⟨c, c.action⟩

/-- The report of a transcript with some cues. -/
def Cues.report (c : Cues) (transcript : String) : TurnReport :=
  ⟨transcript, c, c.action⟩

theorem Cues.transcript_report (c c' : Cues) (transcript : String) :
    (c'.report transcript).transcript = (c.report transcript).transcript :=
  rfl

/-- The report of what is decided about an event that comes after some others. -/
def reportAfter (settings : Settings) (before : List (Event × Instant)) (e : Event)
    (now : Instant) : Option TurnReport :=
  (echo? settings before e now).bind (·.turn?)

theorem decisionAfter_eq_report (settings : Settings) (before : List (Event × Instant)) (e : Event)
    (now : Instant) :
    decisionAfter settings before e now = (reportAfter settings before e now).map (·.decision) := by
  rw [decisionAfter_eq_echo, reportAfter, Option.map_bind]
  congr 1
  funext r
  exact r.decision?_eq

/-- Whether there is a report does not depend on the settings, nor does the transcript in it. -/
theorem reportAfter_cases (settings settings' : Settings) (before : List (Event × Instant))
    (e : Event) (now : Instant) :
    (reportAfter settings before e now = none ∧ reportAfter settings' before e now = none) ∨
      ∃ transcript,
        reportAfter settings before e now =
          some ((cuesAfter settings before transcript now).report transcript) ∧
        reportAfter settings' before e now =
          some ((cuesAfter settings' before transcript now).report transcript) := by
  cases e with
  | phaseChange p => exact Or.inl ⟨rfl, rfl⟩
  | metrics m => exact Or.inl ⟨rfl, rfl⟩
  | utterance u =>
    simp only [reportAfter, echo?_utterance]
    by_cases hheard : u.isFinal ∧ trim u.transcript.toList ≠ []
    · right
      rw [if_pos hheard, if_pos hheard]
      exact ⟨u.transcript, rfl, rfl⟩
    · left
      rw [if_neg hheard, if_neg hheard]
      exact ⟨rfl, rfl⟩

/-- What holds of the cues of every transcript under two settings holds of all decisions. -/
theorem forall₂_decisionsAfter {R : Option Decision → Option Decision → Prop} (hnone : R none none)
    (hsome : ∀ before transcript now,
      R (some (cuesAfter settings before transcript now).decision)
        (some (cuesAfter settings' before transcript now).decision))
    (before es : List (Event × Instant)) :
    List.Forall₂ R (decisionsAfter settings before es) (decisionsAfter settings' before es) := by
  induction es generalizing before with
  | nil => exact .nil
  | cons e es ih =>
    refine .cons ?_ (ih _)
    rw [decisionAfter_eq_report, decisionAfter_eq_report]
    rcases reportAfter_cases settings settings' before e.1 e.2 with
      ⟨heq, heq'⟩ | ⟨transcript, heq, heq'⟩
    · rw [heq, heq']
      exact hnone
    · rw [heq, heq']
      exact hsome before transcript e.2

/-- What holds of the decisions about some events, place by place, holds of the reports of the
transcripts among them; and these are the same transcripts. -/
theorem forall₂_reports {R : Option Decision → Option Decision → Prop}
    {before es : List (Event × Instant)}
    (h : List.Forall₂ R (decisionsAfter settings before es) (decisionsAfter settings' before es)) :
    List.Forall₂ (fun r r' : TurnReport =>
        r'.transcript = r.transcript ∧ R (some r.decision) (some r'.decision))
      ((echoesAfter settings before es).filterMap (·.turn?))
      ((echoesAfter settings' before es).filterMap (·.turn?)) := by
  have hcons : ∀ (s : Settings) (before : List (Event × Instant)) (e : Event × Instant) es,
      (echoesAfter s before (e :: es)).filterMap (·.turn?) =
        (reportAfter s before e.1 e.2).toList ++
          (echoesAfter s (before ++ [e]) es).filterMap (·.turn?) := by
    intro s before e es
    show ((echo? s before e.1 e.2).toList ++ _).filterMap _ = _
    rw [List.filterMap_append, reportAfter]
    cases echo? s before e.1 e.2 with
    | none => rfl
    | some r => cases hr : r.turn? <;> simp [hr]
  -- one more event adds a report on both sides or on neither
  induction es generalizing before with
  | nil => exact .nil
  | cons e es ih =>
    rcases h with - | ⟨hfirst, hrest⟩
    rw [decisionAfter_eq_report, decisionAfter_eq_report] at hfirst
    rw [hcons, hcons]
    rcases reportAfter_cases settings settings' before e.1 e.2 with
      ⟨heq, heq'⟩ | ⟨transcript, heq, heq'⟩
    · rw [heq, heq']
      exact ih hrest
    · rw [heq, heq'] at hfirst
      rw [heq, heq', Option.toList_some, Option.toList_some, List.singleton_append,
        List.singleton_append]
      exact .cons ⟨Cues.transcript_report _ _ _, hfirst⟩ (ih hrest)

end Places

/-! ## Other words -/

/-- A list with more words recognises all that the other one does. -/
theorem Wordlist.recognises_mono {l l' : Wordlist} (h : ∀ w ∈ l.entries, w ∈ l'.entries) {w : Word}
    (hw : l.recognises w = true) : l'.recognises w = true := by
  simp only [recognises, Bool.or_eq_true, WordSet.has_iff] at hw ⊢
  rcases hw with hasis | hnormal
  · exact Or.inl (h w hasis)
  · exact Or.inr (h (normalForm w) hnormal)

theorem any_recognises_mono {l l' : Wordlist} (h : ∀ w ∈ l.entries, w ∈ l'.entries)
    {said : List Word} (hsaid : said.any l.recognises = true) :
    said.any l'.recognises = true := by
  rw [List.any_eq_true] at hsaid ⊢
  rcases hsaid with ⟨w, hw, hrecognised⟩
  exact ⟨w, hw, Wordlist.recognises_mono h hrecognised⟩

/-- With the same backchannel and more commands the action is the same or an interruption. -/
theorem Cues.action_of_more_commands {c c' : Cues} (hoverlapping : c'.overlapping = c.overlapping)
    (hbackchannel : c'.backchannel = c.backchannel)
    (hcommand : c.command = true → c'.command = true) :
    c'.action = c.action ∨ c'.action = .interrupt := by
  by_cases hsame : c'.command = c.command
  · left
    rw [action, action, hoverlapping, hbackchannel, hsame]
  · -- the command is new, so it decides if the transcript overlaps
    have hnew : c'.command = true := by
      cases hc : c.command with
      | true => exact hcommand hc
      | false => simpa [hc] using hsame
    cases hlap : c.overlapping with
    | true =>
      right
      exact (action_eq_interrupt_iff c').2 ⟨hoverlapping.trans hlap, hnew⟩
    | false =>
      left
      rw [(action_eq_noOp_iff c).2 (Or.inl hlap),
        (action_eq_noOp_iff c').2 (Or.inl (hoverlapping.trans hlap))]

namespace Conversation

variable {τ τ' : Type} {settings settings' : Settings} {es : List (Event × Instant)}
  {ds ds' : List (Option Decision)} {c : Conversation τ} {c' : Conversation τ'}

/-- Decisions about the same events that compare by `R` come with reports of the same transcripts
that compare accordingly. -/
theorem Handled.forall₂_and_reports {R : Option Decision → Option Decision → Prop}
    {S : TurnReport → TurnReport → Prop} (h : c.Handled settings es ds)
    (h' : c'.Handled settings' es ds')
    (hR : List.Forall₂ R (decisionsAfter settings [] es) (decisionsAfter settings' [] es))
    (hS : ∀ r r', r'.transcript = r.transcript → R (some r.decision) (some r'.decision) → S r r') :
    List.Forall₂ R ds ds' ∧
      List.Forall₂ S c.context.journal.turnReports c'.context.journal.turnReports := by
  rw [h.decisions_eq, h'.decisions_eq, h.turnReports_eq, h'.turnReports_eq]
  exact ⟨hR, (forall₂_reports hR).imp fun r r' hboth => hS r r' hboth.1 hboth.2⟩

/-- Two conversations with the same grace window handle the same events. If their commands are the
same they interrupt at the same transcripts, whatever their backchannels are. If their backchannels
are the same and the second knows all commands of the first, it decides the same or to interrupt,
and where the first interrupts it does so too. And with any words both decide about the same
transcripts, and find the same ones to overlap. All of this can be told from the transcripts that
they report. -/
theorem vocabulary_separates (hgrace : settings.grace = settings'.grace)
    (h : c.Handled settings es ds) (h' : c'.Handled settings' es ds') :
    let reports := c.context.journal.turnReports
    let reports' := c'.context.journal.turnReports
    (settings.vocabulary.commands = settings'.vocabulary.commands →
      List.Forall₂ (fun d d' : Option Decision =>
        d.map (·.action) = some .interrupt ↔ d'.map (·.action) = some .interrupt) ds ds' ∧
      List.Forall₂ (fun r r' : TurnReport => r'.transcript = r.transcript ∧
        (r.action = .interrupt ↔ r'.action = .interrupt)) reports reports') ∧
    (settings.vocabulary.backchannels = settings'.vocabulary.backchannels →
      (∀ w ∈ settings.vocabulary.commands.entries, w ∈ settings'.vocabulary.commands.entries) →
      List.Forall₂ (fun d d' : Option Decision =>
        (d'.map (·.action) = d.map (·.action) ∨ d'.map (·.action) = some .interrupt) ∧
          (d.map (·.action) = some .interrupt → d'.map (·.action) = some .interrupt)) ds ds' ∧
      List.Forall₂ (fun r r' : TurnReport => r'.transcript = r.transcript ∧
        (r'.action = r.action ∨ r'.action = .interrupt) ∧
          (r.action = .interrupt → r'.action = .interrupt)) reports reports') ∧
    List.Forall₂ (fun d d' : Option Decision =>
      d.map (·.cues.overlapping) = d'.map (·.cues.overlapping)) ds ds' ∧
    List.Forall₂ (fun r r' : TurnReport => r'.transcript = r.transcript ∧
      r.cues.overlapping = r'.cues.overlapping) reports reports' := by
  intro reports reports'
  have hoverlapping : ∀ before transcript now,
      (cuesAfter settings' before transcript now).overlapping =
        (cuesAfter settings before transcript now).overlapping := by
    intro before transcript now
    simp only [cuesAfter, hgrace]
  refine ⟨?_, ?_, ?_⟩
  · -- an interruption is a matter of the commands and of the floor alone
    intro hcommands
    refine h.forall₂_and_reports h' (forall₂_decisionsAfter Iff.rfl ?_ [] es) ?_
    · intro before transcript now
      have hcommand : (cuesAfter settings' before transcript now).command =
          (cuesAfter settings before transcript now).command := by
        simp only [cuesAfter, hcommands]
      simp only [Option.map_some, Option.some.injEq, Cues.decision, Cues.action_eq_interrupt_iff,
        hoverlapping, hcommand]
    · intro r r' htranscript hinterrupt
      simp only [Option.map_some, Option.some.injEq, TurnReport.decision] at hinterrupt
      exact ⟨htranscript, hinterrupt⟩
  · -- a command that is new can only turn an action into an interruption
    intro hbackchannels hcommands
    refine h.forall₂_and_reports h' (forall₂_decisionsAfter ⟨Or.inl rfl, id⟩ ?_ [] es) ?_
    · intro before transcript now
      have hbackchannel : (cuesAfter settings' before transcript now).backchannel =
          (cuesAfter settings before transcript now).backchannel := by
        simp only [cuesAfter, hbackchannels]
      have hcommand : (cuesAfter settings before transcript now).command = true →
          (cuesAfter settings' before transcript now).command = true := by
        simp only [cuesAfter]
        exact any_recognises_mono hcommands
      have haction := Cues.action_of_more_commands (hoverlapping before transcript now) hbackchannel
        hcommand
      simp only [Option.map_some, Option.some.injEq, Cues.decision]
      refine ⟨haction, ?_⟩
      intro hinterrupt
      rcases haction with hsame | hinterrupt'
      · exact hsame.trans hinterrupt
      · exact hinterrupt'
    · intro r r' htranscript haction
      simp only [Option.map_some, Option.some.injEq, TurnReport.decision] at haction
      exact ⟨htranscript, haction⟩
  · refine h.forall₂_and_reports h' ?_ ?_
    · apply forall₂_decisionsAfter
      · rfl
      · intro before transcript now
        exact congrArg some (hoverlapping before transcript now).symm
    · intro r r' htranscript hlap
      exact ⟨htranscript, Option.some.inj hlap⟩

/-- A command stays one when it is a backchannel as well, and a backchannel that becomes a command
interrupts. Each decision is reported. -/
theorem vocabulary_separates_overlapping_lists :
    let plain := Settings.standard
    let known := plain.vocabulary
    let both : Settings := ⟨⟨.ofFragments ["stop".toList], known.commands⟩, plain.grace⟩
    let more : Settings := ⟨⟨known.backchannels,
      .ofFragments ((Vocabulary.standardCommands ++ ["Okay"]).map (·.toList))⟩, plain.grace⟩
    let ms : List (Move Advance) :=
      [.event (.phaseChange ⟨.idle, .speaking, .onArrival⟩) ⟨0⟩,
        .event (.utterance ⟨"okay, STOP", true, none, .onArrival⟩) ⟨1⟩,
        .event (.utterance ⟨"okay", true, none, .onArrival⟩) ⟨2⟩]
    let decided (s : Settings) := (fresh s .willing ()).decisions ms
    let reported (s : Settings) := ((fresh s .willing ()).run ms).context.journal.turnReports
    (decided plain).map (·.map (·.action)) = [none, some .interrupt, some .clearTurn] ∧
      (decided both).map (·.map (·.action)) = [none, some .interrupt, some .noOp] ∧
      (decided more).map (·.map (·.action)) = [none, some .interrupt, some .interrupt] ∧
      reported plain = [⟨"okay, STOP", ⟨true, true, true⟩, .interrupt⟩,
        ⟨"okay", ⟨true, false, true⟩, .clearTurn⟩] ∧
      List.Forall₂ (fun d d' : Option Decision =>
        d.map (·.action) = some .interrupt ↔ d'.map (·.action) = some .interrupt)
        (decided plain) (decided both) ∧
      List.Forall₂ (fun d d' : Option Decision =>
        (d'.map (·.action) = d.map (·.action) ∨ d'.map (·.action) = some .interrupt) ∧
          (d.map (·.action) = some .interrupt → d'.map (·.action) = some .interrupt))
        (decided plain) (decided more) ∧
      List.Forall₂ (fun r r' : TurnReport => r'.transcript = r.transcript ∧
        r.cues.overlapping = r'.cues.overlapping) (reported plain) (reported more) := by
  intro plain known both more ms decided reported
  have handled : ∀ s, ((fresh s .willing ()).run ms).Handled s (Move.events ms) (decided s) :=
    fun s => .ownHost .willing () ms
  have hmore : ∀ w ∈ known.commands.entries.words, w ∈ more.vocabulary.commands.entries.words := by
    decide +kernel
  have hgrace : plain.grace = both.grace := rfl
  have hgrace' : plain.grace = more.grace := rfl
  have hplain : (decided plain).map (·.map (·.action)) = [none, some .interrupt, some .clearTurn] ∧
      reported plain = [⟨"okay, STOP", ⟨true, true, true⟩, .interrupt⟩,
        ⟨"okay", ⟨true, false, true⟩, .clearTurn⟩] := by
    decide +kernel
  refine ⟨hplain.1, by decide +kernel, by decide +kernel, hplain.2, ?_, ?_, ?_⟩
  · exact ((vocabulary_separates hgrace (handled plain) (handled both)).1 rfl).1
  · exact ((vocabulary_separates hgrace' (handled plain) (handled more)).2.1 rfl hmore).1
  · exact (vocabulary_separates hgrace' (handled plain) (handled more)).2.2.2

end Conversation

/-! ## A longer grace window -/

/-- What overlaps within a grace window overlaps within a longer one. -/
theorem overlapsAfter_mono {grace grace' : Duration} (hle : grace.nanos ≤ grace'.nanos)
    {cs : List Floor.Change} {now : Instant} (h : overlapsAfter cs now grace = true) :
    overlapsAfter cs now grace' = true := by
  simp only [overlapsAfter, Option.any_eq_true, Bool.or_eq_true, decide_eq_true_eq] at h ⊢
  rcases h with ⟨c, hc, hspeaking | hpassed⟩
  · exact ⟨c, hc, Or.inl hspeaking⟩
  · have hpassed' : (now.since c.time).nanos < grace.nanos := hpassed
    have hlonger : (now.since c.time).nanos < grace'.nanos := by omega
    exact ⟨c, hc, Or.inr hlonger⟩

/-- What overlaps at an instant would have overlapped at an earlier one. -/
theorem overlapsAfter_earlier {grace : Duration} {cs : List Floor.Change} {now later : Instant}
    (hle : now.nanos ≤ later.nanos) (h : overlapsAfter cs later grace = true) :
    overlapsAfter cs now grace = true := by
  simp only [overlapsAfter, Option.any_eq_true, Bool.or_eq_true, decide_eq_true_eq] at h ⊢
  rcases h with ⟨c, hc, hspeaking | hpassed⟩
  · exact ⟨c, hc, Or.inl hspeaking⟩
  · -- the difference stops at nothing when the clock goes back, which keeps the order
    have hpassed' : later.nanos - c.time.nanos < grace.nanos := hpassed
    have hsooner : now.nanos - c.time.nanos < grace.nanos := by omega
    exact ⟨c, hc, Or.inr hsooner⟩

/-- With the same words, what is done about a transcript is still done if it overlaps as before or
more. -/
theorem Cues.action_of_more_overlapping {c c' : Cues}
    (hbackchannel : c'.backchannel = c.backchannel) (hcommand : c'.command = c.command)
    (hoverlapping : c.overlapping = true → c'.overlapping = true)
    (haction : c.action ≠ .noOp) : c'.action = c.action := by
  cases hlap : c.overlapping with
  | true => rw [action, action, hbackchannel, hcommand, hlap, hoverlapping hlap]
  | false => exact absurd ((action_eq_noOp_iff c).2 (Or.inl hlap)) haction

/-- How the decisions about an event compare when the second grace window is the longer one. -/
structure Decision.Widens (d d' : Option Decision) : Prop where
  /-- Both decide or neither does, and both find the same words. -/
  words : d.map (fun x => (x.cues.backchannel, x.cues.command)) =
    d'.map fun x => (x.cues.backchannel, x.cues.command)
  /-- What overlaps overlaps still. -/
  overlapping : d.map (·.cues.overlapping) = some true → d'.map (·.cues.overlapping) = some true
  /-- What is done is still done. -/
  action : ∀ a, a ≠ .noOp → d.map (·.action) = some a → d'.map (·.action) = some a

/-- How the reports of these decisions compare. -/
theorem Decision.Widens.report {r r' : TurnReport}
    (h : Decision.Widens (some r.decision) (some r'.decision)) :
    r'.cues.backchannel = r.cues.backchannel ∧ r'.cues.command = r.cues.command ∧
      (r.cues.overlapping = true → r'.cues.overlapping = true) ∧
      (r.action ≠ .noOp → r'.action = r.action) := by
  have hwords := Prod.mk.inj (Option.some.inj h.words)
  refine ⟨hwords.1.symm, hwords.2.symm, ?_, ?_⟩
  · intro hlap
    exact Option.some.inj (h.overlapping (congrArg some hlap))
  · intro hacts
    exact Option.some.inj (h.action r.action hacts rfl)

/-- A longer grace window may add requests but drops none. -/
theorem requestsOf_sublist {ds ds' : List (Option Decision)}
    (h : List.Forall₂ Decision.Widens ds ds') : (requestsOf ds).Sublist (requestsOf ds') := by
  induction h with
  | nil => exact List.Sublist.refl _
  | @cons d d' ds ds' hd _ ih =>
    cases hr : d.bind (·.action.request?) with
    | none =>
      have hdrop : requestsOf (d :: ds) = requestsOf ds := List.filterMap_cons_none hr
      have hmore : requestsOf (d' :: ds')
          = (d'.bind (·.action.request?)).toList ++ requestsOf ds' := by
        unfold requestsOf
        cases hr' : d'.bind (·.action.request?) <;> simp [hr']
      rw [hdrop, hmore]
      exact ih.trans (List.sublist_append_right _ _)
    | some r =>
      rcases Option.bind_eq_some_iff.1 hr with ⟨x, rfl, hx⟩
      -- it makes a request, so it does something
      have hne : x.action ≠ .noOp := by
        intro hnoop
        rw [hnoop] at hx
        cases hx
      rcases Option.map_eq_some_iff.1 (hd.action x.action hne rfl) with ⟨x', rfl, hsame⟩
      have hx' : x'.action.request? = some r := by
        rw [hsame]
        exact hx
      have hkeep : requestsOf (some x :: ds) = r :: requestsOf ds := List.filterMap_cons_some hr
      have hkeep' : requestsOf (some x' :: ds') = r :: requestsOf ds' :=
        List.filterMap_cons_some hx'
      rw [hkeep, hkeep']
      exact ih.cons_cons r

namespace Conversation

variable {τ τ' : Type} {settings : Settings} {es : List (Event × Instant)}
  {ds ds' : List (Option Decision)} {c : Conversation τ} {c' : Conversation τ'}

/-- A conversation that does nothing about a transcript does nothing about it if it comes later. -/
theorem Handled.noOp_later (h : c.Handled settings es ds) (u : Utterance) {now later : Instant}
    (hle : now.nanos ≤ later.nanos)
    (hnoop : (c.context.decision? (.utterance u) now).map (·.action) = some .noOp) :
    (c.context.decision? (.utterance u) later).map (·.action) = some .noOp := by
  rw [h.told.decision?_eq] at hnoop ⊢
  by_cases hheard : u.isFinal ∧ trim u.transcript.toList ≠ []
  · simp only [decisionAfter, if_pos hheard, Option.map_some, Option.some.injEq] at hnoop ⊢
    by_contra hacts
    -- an action that is taken later would have been taken already
    have hsooner : (cuesAfter settings es u.transcript later).overlapping = true →
        (cuesAfter settings es u.transcript now).overlapping = true :=
      overlapsAfter_earlier hle
    have hsame : (cuesAfter settings es u.transcript now).action =
        (cuesAfter settings es u.transcript later).action :=
      Cues.action_of_more_overlapping rfl rfl hsooner hacts
    exact hacts (hsame.symm.trans hnoop)
  · simp only [decisionAfter, if_neg hheard] at hnoop
    cases hnoop

/-- Two conversations with the same words handle the same events, the second with a grace window
that is no shorter. They decide about the same transcripts and find the same words in them; what
overlaps for the first overlaps for the second, and what the first does about a transcript the
second does as well, so that the requests of the first are among those of the second, in order. This
can be told from the transcripts that they report, and at hosts of any kind these are the requests
that were made. And a conversation that would do nothing about a transcript would do nothing about
it later. -/
theorem grace_widens {grace grace' : Duration} (hle : grace.nanos ≤ grace'.nanos)
    (h : c.Handled (settings.withGrace grace) es ds)
    (h' : c'.Handled (settings.withGrace grace') es ds') :
    List.Forall₂ Decision.Widens ds ds' ∧
      List.Forall₂ (fun r r' : TurnReport => r'.transcript = r.transcript ∧
          r'.cues.backchannel = r.cues.backchannel ∧ r'.cues.command = r.cues.command ∧
          (r.cues.overlapping = true → r'.cues.overlapping = true) ∧
          (r.action ≠ .noOp → r'.action = r.action))
        c.context.journal.turnReports c'.context.journal.turnReports ∧
      (requestsOf ds).Sublist (requestsOf ds') ∧
      ((c.context.journal.turnReports.map (·.action)).filter (· ≠ .noOp)).Sublist
        ((c'.context.journal.turnReports.map (·.action)).filter (· ≠ .noOp)) ∧
      (∀ (mode mode' : HostMode) (notes : τ) (notes' : τ') (ms ms' : List (Move Dealing)),
        Move.events ms = es → Move.events ms' = es →
        ((Course.fresh (settings.withGrace grace) mode notes).run ms).log.made.Sublist
          ((Course.fresh (settings.withGrace grace') mode' notes').run ms').log.made) ∧
      ∀ (u : Utterance) (now later : Instant), now.nanos ≤ later.nanos →
        (c.context.decision? (.utterance u) now).map (·.action) = some .noOp →
        (c.context.decision? (.utterance u) later).map (·.action) = some .noOp := by
  -- place by place the longer window changes nothing but what overlaps
  have hwidens : List.Forall₂ Decision.Widens (decisionsAfter (settings.withGrace grace) [] es)
      (decisionsAfter (settings.withGrace grace') [] es) := by
    refine forall₂_decisionsAfter ⟨rfl, id, fun _ _ => id⟩ ?_ [] es
    intro before transcript now
    have hbackchannel : (cuesAfter (settings.withGrace grace') before transcript now).backchannel =
        (cuesAfter (settings.withGrace grace) before transcript now).backchannel := rfl
    have hcommand : (cuesAfter (settings.withGrace grace') before transcript now).command =
        (cuesAfter (settings.withGrace grace) before transcript now).command := rfl
    have hoverlapping : (cuesAfter (settings.withGrace grace) before transcript now).overlapping =
        true → (cuesAfter (settings.withGrace grace') before transcript now).overlapping = true :=
      overlapsAfter_mono hle
    refine ⟨?_, ?_, ?_⟩
    · simp only [Option.map_some, Cues.decision, hbackchannel, hcommand]
    · intro hlap
      exact congrArg some (hoverlapping (Option.some.inj hlap))
    · intro a hacts haction
      have heq := Option.some.inj haction
      subst heq
      exact congrArg some (Cues.action_of_more_overlapping hbackchannel hcommand
        hoverlapping hacts)
  obtain ⟨hdecisions, hreports⟩ := h.forall₂_and_reports h' hwidens fun r r' htranscript hR =>
    And.intro htranscript hR.report
  have hrequests := requestsOf_sublist hdecisions
  refine ⟨hdecisions, hreports, hrequests, ?_, ?_, ?_⟩
  · rw [h.reported_actions, h'.reported_actions]
    exact hrequests.map _
  · intro mode mode' notes notes' ms ms' hevents hevents'
    rw [Course.made_eq, Course.made_eq, hevents, hevents', ← h.decisions_eq, ← h'.decisions_eq]
    exact hrequests
  · intro u now later hlater
    exact h.noOp_later u hlater

/-- The agent stops, by a clock that went back, at the third second. One and a half seconds later a
grace window of one second is over and one of two seconds is not. -/
theorem grace_widens_backwards :
    let short := Settings.standard.withGrace (.ofParts 1 0)
    let long := Settings.standard.withGrace (.ofParts 2 0)
    let yeah : Utterance := ⟨"yeah", true, none, .onArrival⟩
    let es : List (Event × Instant) :=
      [(.phaseChange ⟨.idle, .speaking, .onArrival⟩, ⟨5000000000⟩),
        (.phaseChange ⟨.speaking, .listening, .onArrival⟩, ⟨3000000000⟩),
        (.utterance ⟨"stop", true, none, .onArrival⟩, ⟨2000000000⟩),
        (.utterance yeah, ⟨4500000000⟩)]
    let ms : List (Move Advance) := es.map fun e => .event e.1 e.2
    let ns : List (Move Dealing) := es.map fun e => .event e.1 e.2
    let c := (fresh short .willing ()).run ms
    let made (s : Settings) := ((Course.fresh s .willing ()).run ns).log.made
    let reported (s : Settings) := ((fresh s .willing ()).run ms).context.journal.turnReports
    made short = [.interrupt] ∧ made long = [.interrupt, .clearTurn] ∧
      (made short).Sublist (made long) ∧
      (reported short).map (·.action) = [.interrupt, .noOp] ∧
      (reported long).map (·.action) = [.interrupt, .clearTurn] ∧
      (((reported short).map (·.action)).filter (· ≠ .noOp)).Sublist
        (((reported long).map (·.action)).filter (· ≠ .noOp)) ∧
      List.Forall₂ Decision.Widens ((fresh short .willing ()).decisions ms)
        ((fresh long .willing ()).decisions ms) ∧
      (c.context.decision? (.utterance yeah) ⟨4500000000⟩).map (·.action) = some .noOp ∧
      (c.context.decision? (.utterance yeah) ⟨9000000000⟩).map (·.action) = some .noOp := by
  intro short long yeah es ms ns c made reported
  have hle : (Duration.ofParts 1 0).nanos ≤ (Duration.ofParts 2 0).nanos := by decide
  have handled : ∀ s, ((fresh s .willing ()).run ms).Handled s es
      ((fresh s .willing ()).decisions ms) := fun s => .ownHost .willing () ms
  have hnoop : (c.context.decision? (.utterance yeah) ⟨4500000000⟩).map (·.action) =
      some .noOp := by
    decide +kernel
  rcases grace_widens hle (handled short) (handled long) with
    ⟨hwidens, -, -, hreported, hmade, hlater⟩
  have hshort : made short = [.interrupt] ∧
      (reported short).map (·.action) = [.interrupt, .noOp] := by
    decide +kernel
  have hlong : made long = [.interrupt, .clearTurn] ∧
      (reported long).map (·.action) = [.interrupt, .clearTurn] := by
    decide +kernel
  refine ⟨hshort.1, hlong.1, ?_, hshort.2, hlong.2, hreported, hwidens, hnoop, ?_⟩
  · exact hmade .willing .willing () () ns ns rfl rfl
  · exact hlater yeah _ _ (by decide) hnoop

end Conversation

end TurnTaking
