import TurnTaking.Moderator
import TurnTaking.Proofs.Floor.LatestTouch
import TurnTaking.Proofs.Text.LowerCase
/-!
# What a moderator decides

A moderator hears of phase changes and of transcripts in any order. Its decision about a transcript
depends on the transcript, on the settings and on the latest change that touched the floor, and on
nothing else of what it has heard.

The main statement is `judge_hearAll`, which says when there is a decision, when it is one about
overlapping speech, and which action it calls for.
-/

namespace TurnTaking

open Text Time

namespace Cues

/-- The policy: a command that overlaps interrupts, a backchannel that overlaps is cleared. -/
theorem action_eq (c : Cues) :
    c.action =
      if c.overlapping ∧ c.command then .interrupt
      else if c.overlapping ∧ c.backchannel then .clearTurn
      else .noOp := by
  rcases c with ⟨_ | _, _ | _, _ | _⟩ <;> rfl

theorem action_eq_interrupt_iff (c : Cues) :
    c.action = .interrupt ↔ c.overlapping = true ∧ c.command = true := by
  rcases c with ⟨_ | _, _ | _, _ | _⟩ <;> decide

theorem action_eq_clearTurn_iff (c : Cues) :
    c.action = .clearTurn ↔ c.overlapping = true ∧ c.backchannel = true ∧ c.command = false := by
  rcases c with ⟨_ | _, _ | _, _ | _⟩ <;> decide

theorem action_eq_noOp_iff (c : Cues) :
    c.action = .noOp ↔
      c.overlapping = false ∨ c.command = false ∧ c.backchannel = false := by
  rcases c with ⟨_ | _, _ | _, _ | _⟩ <;> decide

theorem heard_eq_nil_iff (transcript : String) :
    heard transcript = [] ↔ trim transcript.toList = [] := by
  rw [heard, normalForm, lower_eq_nil_iff]

theorem ofTranscript_eq_none_iff {transcript : String} {floor : Floor} {now : Instant}
    {grace : Duration} {vocabulary : Vocabulary} :
    ofTranscript transcript floor now grace vocabulary = none ↔ trim transcript.toList = [] := by
  rw [← heard_eq_nil_iff]
  simp [ofTranscript]

theorem overlapping_of_ofTranscript {transcript : String} {floor : Floor} {now : Instant}
    {grace : Duration} {vocabulary : Vocabulary} {c : Cues}
    (h : ofTranscript transcript floor now grace vocabulary = some c) :
    c.overlapping = floor.overlaps now grace := by
  simp only [ofTranscript] at h
  split at h
  · cases h
  · have hc := Option.some.inj h
    rw [← hc]

end Cues

/-- What a moderator hears of: a phase change, or a transcript and when it comes. -/
inductive Heard where
  | change (c : Floor.Change)
  | transcript (text : String) (isFinal : Bool) (time : Instant)

/-- The phase changes among all that is heard. -/
def Heard.changes : List Heard → List Floor.Change
  | [] => []
  | change c :: rest => c :: changes rest
  | transcript _ _ _ :: rest => changes rest

namespace Moderator

/-- The moderator after it has heard of something, and its decision. -/
def hear (m : Moderator) : Heard → Moderator × Option Decision
  | .change c => (m.follow c.old c.new c.time, none)
  | .transcript text isFinal time => (m, m.judge text isFinal time)

/-- The moderator after a list of things that it has heard of, and its decisions. -/
def hearAll (m : Moderator) : List Heard → Moderator × List (Option Decision)
  | [] => (m, [])
  | h :: hs =>
    let (m, decision) := m.hear h
    let (m, decisions) := m.hearAll hs
    (m, decision :: decisions)

@[simp] theorem settings_hear (m : Moderator) (h : Heard) : (m.hear h).1.settings = m.settings := by
  cases h <;> rfl

/-- Settings are never changed. -/
theorem settings_hearAll (m : Moderator) (hs : List Heard) :
    (m.hearAll hs).1.settings = m.settings := by
  induction hs generalizing m with
  | nil => rfl
  | cons h hs ih =>
    show ((m.hear h).1.hearAll hs).1.settings = m.settings
    rw [ih, settings_hear]

/-- The floor is that of the phase changes alone: transcripts leave it as it is. -/
theorem floor_hearAll (m : Moderator) (hs : List Heard) :
    (m.hearAll hs).1.floor = m.floor.changed (Heard.changes hs) := by
  induction hs generalizing m with
  | nil => rfl
  | cons h hs ih =>
    show ((m.hear h).1.hearAll hs).1.floor = m.floor.changed (Heard.changes (h :: hs))
    rw [ih]
    cases h <;> rfl

/-! ## Decisions -/

theorem judge_eq_none_iff {m : Moderator} {transcript : String} {isFinal : Bool} {now : Instant} :
    m.judge transcript isFinal now = none ↔ isFinal = false ∨ trim transcript.toList = [] := by
  cases isFinal with
  | false => simp [judge]
  | true => simp [judge, Cues.ofTranscript_eq_none_iff]

theorem judge_eq_some {m : Moderator} {transcript : String} {isFinal : Bool} {now : Instant}
    {d : Decision} (h : m.judge transcript isFinal now = some d) :
    d.cues.overlapping = m.floor.overlaps now m.settings.grace ∧ d.action = d.cues.action := by
  cases isFinal with
  | false => simp [judge] at h
  | true =>
    simp only [judge, if_true, Option.map_eq_some_iff] at h
    obtain ⟨c, hc, rfl⟩ := h
    exact ⟨Cues.overlapping_of_ofTranscript hc, rfl⟩

/-- The time since an instant is short of a grace window just if the difference is, where an instant
that is still to come counts as the present one. -/
theorem since_lt_iff (now earlier : Instant) (grace : Duration) :
    now.since earlier < grace ↔ max ((now.nanos : Int) - earlier.nanos) 0 < grace.nanos := by
  show now.nanos - earlier.nanos < grace.nanos ↔ _
  omega

/-- After any phase changes and transcripts, in any order and at any instants: a transcript is
passed over just if it is not final or holds only blanks. Otherwise it overlaps just if the latest
change that entered or left speaking entered it, or left it less than the grace window ago; and it
calls for an interruption just if it overlaps and holds a command, for clearing the turn just if it
overlaps and holds a backchannel but no command, and for nothing in all other cases. -/
theorem judge_hearAll (settings : Settings) (hs : List Heard) (transcript : String)
    (isFinal : Bool) (now : Instant) :
    let judged := ((fresh settings).hearAll hs).1.judge transcript isFinal now
    (judged = none ↔ isFinal = false ∨ trim transcript.toList = []) ∧
      ∀ d, judged = some d →
        (d.cues.overlapping = true ↔
          ∃ c, Floor.lastTouch (Heard.changes hs) = some c ∧
            (c.new = .speaking ∨
              max ((now.nanos : Int) - c.time.nanos) 0 < settings.grace.nanos)) ∧
        (d.action = .interrupt ↔ d.cues.overlapping = true ∧ d.cues.command = true) ∧
        (d.action = .clearTurn ↔
          d.cues.overlapping = true ∧ d.cues.backchannel = true ∧ d.cues.command = false) ∧
        (d.action = .noOp ↔
          d.cues.overlapping = false ∨ d.cues.command = false ∧ d.cues.backchannel = false) := by
  intro judged
  refine ⟨judge_eq_none_iff, ?_⟩
  intro d hd
  obtain ⟨hoverlap, haction⟩ := judge_eq_some hd
  refine ⟨?_, ?_, ?_, ?_⟩
  · -- the grace window is the one of the settings, and the floor that of the changes alone
    rw [hoverlap, floor_hearAll, settings_hearAll]
    show (Floor.quiet.changed (Heard.changes hs)).overlaps now settings.grace = true ↔ _
    rw [Floor.overlaps_changed_iff]
    simp only [since_lt_iff]
  · rw [haction]
    exact Cues.action_eq_interrupt_iff d.cues
  · rw [haction]
    exact Cues.action_eq_clearTurn_iff d.cues
  · rw [haction]
    exact Cues.action_eq_noOp_iff d.cues

/-- The agent begins to speak at the fifth second and stops, by a clock that went back, at the
third; what comes at the fourth second is still within the two seconds after that. -/
theorem judge_hearAll_backwards :
    let hs : List Heard :=
      [.change ⟨.idle, .speaking, ⟨5000000000⟩⟩, .transcript "yeah" true ⟨5000000000⟩,
        .change ⟨.speaking, .listening, ⟨3000000000⟩⟩, .transcript "st" false ⟨3000000000⟩,
        .change ⟨.listening, .thinking, ⟨9000000000⟩⟩]
    ((fresh .standard).hearAll hs).1.judge " Okay, STOP! " true ⟨4000000000⟩ =
        some ⟨⟨true, true, true⟩, .interrupt⟩ ∧
      ∃ c, Floor.lastTouch (Heard.changes hs) = some c ∧
        (c.new = .speaking ∨
          max (((⟨4000000000⟩ : Instant).nanos : Int) - c.time.nanos) 0 <
            Settings.standard.grace.nanos) := by
  intro hs
  have hjudged : ((fresh .standard).hearAll hs).1.judge " Okay, STOP! " true ⟨4000000000⟩ =
      some ⟨⟨true, true, true⟩, .interrupt⟩ := by
    decide +kernel
  have hdecided := (judge_hearAll .standard hs " Okay, STOP! " true ⟨4000000000⟩).2 _ hjudged
  exact ⟨hjudged, hdecided.1.1 rfl⟩

end Moderator

end TurnTaking
