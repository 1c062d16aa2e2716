import Mathlib.Data.List.Chain
import TurnTaking.Proofs.Floor.LatestTouch
/-!
# When the agent last began and stopped

A floor remembers one instant at which the agent began to speak and one at which it stopped. After
any phase changes these are the latest ones. The phase changes of one agent moreover follow each
other: each starts in the phase in which the one before it ended, and none is heard of earlier than
the one before it. Then the two instants also tell which of the two came last.

The main statement is `speech_times`. Its second half is carried by the invariant `Coherent`, which
links the three fields of a floor to the change that it has seen last.
-/

namespace TurnTaking.Floor

open Time

/-! ## The latest beginning and the latest end -/

/-- Whether a phase change enters speaking, be it from speaking. -/
def Change.begins (c : Change) : Bool :=
  c.new == .speaking

/-- Whether a phase change leaves speaking. -/
def Change.stops (c : Change) : Bool :=
  c.old == .speaking && c.new != .speaking

theorem Change.touches_eq_false_iff (c : Change) :
    c.touches = false ↔ c.old ≠ .speaking ∧ c.new ≠ .speaking := by
  simp [touches, Floor.touches, Phase.isSpeaking, and_comm]

variable {c : Change}

/-- There are three kinds of changes: those that enter speaking, those that leave it, and those
that do not touch the floor. -/
theorem change_cases (f : Floor) (c : Change) :
    (c.begins = true ∧ c.stops = false ∧
      f.change c.old c.new c.time = { f with speaking := true, startedAt := some c.time }) ∨
    (c.begins = false ∧ c.stops = true ∧
      f.change c.old c.new c.time = { f with speaking := false, endedAt := some c.time }) ∨
    (c.begins = false ∧ c.stops = false ∧ f.change c.old c.new c.time = f) := by
  by_cases hnew : c.new = .speaking
  · left
    simp [Change.begins, Change.stops, change, Phase.isSpeaking, hnew]
  · right
    by_cases hold : c.old = .speaking
    · left
      simp [Change.begins, Change.stops, change, Phase.isSpeaking, hnew, hold]
    · right
      simp [Change.begins, Change.stops, change, Phase.isSpeaking, hnew, hold]

/-- What a field of the floor remembers that every change of a kind overwrites with its time, and no
other change. -/
theorem eq_latest {field : Floor → Option Instant} {p : Change → Bool}
    (hquiet : field quiet = none) (hstep : ∀ (f : Floor) (c : Change),
      field (f.change c.old c.new c.time) = if p c then some c.time else field f)
    (cs : List Change) : field (quiet.changed cs) = (latest p cs).map (·.time) := by
  induction cs using List.reverseRecOn with
  | nil => exact hquiet
  | append_singleton cs c ih =>
    rw [changed_snoc, hstep]
    by_cases hc : p c = true
    · rw [if_pos hc, latest_snoc_of_pos hc]
      rfl
    · rw [if_neg hc, latest_snoc_of_neg (Bool.eq_false_iff.2 hc)]
      exact ih

theorem startedAt_changed (cs : List Change) :
    (quiet.changed cs).startedAt = (latest (·.begins) cs).map (·.time) := by
  apply eq_latest rfl
  intro f c
  rcases change_cases f c with ⟨hbegins, -, heq⟩ | ⟨hbegins, -, heq⟩ | ⟨hbegins, -, heq⟩
  all_goals simp [heq, hbegins]

theorem endedAt_changed (cs : List Change) :
    (quiet.changed cs).endedAt = (latest (·.stops) cs).map (·.time) := by
  apply eq_latest rfl
  intro f c
  rcases change_cases f c with ⟨-, hstops, heq⟩ | ⟨-, hstops, heq⟩ | ⟨-, hstops, heq⟩
  all_goals simp [heq, hstops]

theorem speaking_changed_iff (cs : List Change) :
    (quiet.changed cs).speaking = true ↔ ∃ c, lastTouch cs = some c ∧ c.new = .speaking := by
  have htells := changed_of_lastTouch cs
  cases hlast : lastTouch cs with
  | none =>
    rw [hlast] at htells
    have hquiet : quiet.changed cs = quiet := htells
    rw [hquiet]
    simp [quiet]
  | some c =>
    rw [hlast] at htells
    simp only [Tells] at htells
    split at htells
    · rename_i hnew
      simp [htells.1, hnew]
    · rename_i hnew
      simp [htells.1, hnew]

/-! ## The changes of one agent -/

/-- Phase changes that one agent can go through: each starts in the phase in which the one before
it ended, the first one not in speaking, and none is earlier than the one before it. -/
structure OfOneAgent (cs : List Change) : Prop where
  chained : cs.IsChain fun c d => d.old = c.new
  silent : ∀ c ∈ cs.head?, c.old ≠ .speaking
  forward : cs.IsChain fun c d => c.time.nanos ≤ d.time.nanos

instance (cs : List Change) : Decidable (OfOneAgent cs) :=
  decidable_of_iff ((cs.IsChain fun c d => d.old = c.new) ∧ (∀ c ∈ cs.head?, c.old ≠ .speaking) ∧
      cs.IsChain fun c d => c.time.nanos ≤ d.time.nanos)
    ⟨fun h => ⟨h.1, h.2.1, h.2.2⟩, fun h => ⟨h.chained, h.silent, h.forward⟩⟩

/-- What a floor says about the change that it has seen last, if there was one. -/
structure Coherent (f : Floor) (last : Option Change) : Prop where
  speaking_iff : f.speaking = true ↔ ∃ c, last = some c ∧ c.new = .speaking
  /-- What it remembers is not later than the last change. -/
  started_le : ∀ s, f.startedAt = some s → ∃ c, last = some c ∧ s.nanos ≤ c.time.nanos
  ended_le : ∀ e, f.endedAt = some e → ∃ c, last = some c ∧ e.nanos ≤ c.time.nanos
  /-- While the agent speaks, it last began after it last stopped. -/
  speaking_started : f.speaking = true →
    ∃ s, f.startedAt = some s ∧ ∀ e, f.endedAt = some e → e.nanos ≤ s.nanos
  /-- While it is silent, it last stopped after it last began, if it ever began. -/
  silent_ended : f.speaking = false → ∀ s, f.startedAt = some s →
    ∃ e, f.endedAt = some e ∧ s.nanos ≤ e.nanos
  silent_started : f.speaking = false → ∀ e, f.endedAt = some e → ∃ s, f.startedAt = some s

theorem coherent_quiet : quiet.Coherent none where
  speaking_iff := by simp [quiet]
  started_le := by simp [quiet]
  ended_le := by simp [quiet]
  speaking_started := by simp [quiet]
  silent_ended := by simp [quiet]
  silent_started := by simp [quiet]

/-- A change that follows the last one keeps the floor coherent. -/
theorem Coherent.change {f : Floor} {last : Option Change} (h : f.Coherent last)
    (hold : c.old = .speaking ↔ ∃ d, last = some d ∧ d.new = .speaking)
    (htime : ∀ d, last = some d → d.time.nanos ≤ c.time.nanos) :
    (f.change c.old c.new c.time).Coherent (some c) := by
  have hstarted : ∀ s, f.startedAt = some s → s.nanos ≤ c.time.nanos := by
    intro s hs
    rcases h.started_le s hs with ⟨d, hd, hle⟩
    exact hle.trans (htime d hd)
  have hended : ∀ e, f.endedAt = some e → e.nanos ≤ c.time.nanos := by
    intro e he
    rcases h.ended_le e he with ⟨d, hd, hle⟩
    exact hle.trans (htime d hd)
  rcases change_cases f c with ⟨hbegins, -, heq⟩ | ⟨hbegins, hstops, heq⟩ | ⟨hbegins, hstops, heq⟩
  · -- it begins to speak, now
    have hnew : c.new = .speaking := by simpa [Change.begins] using hbegins
    rw [heq]
    constructor
    · simp [hnew]
    · simp
    · simpa using hended
    · simpa using hended
    · simp
    · simp
  · -- it stops now, so it has spoken up to now and the floor knows since when
    have hspeaking : f.speaking = true := by
      refine h.speaking_iff.2 (hold.1 ?_)
      simp only [Change.stops, Bool.and_eq_true, beq_iff_eq] at hstops
      exact hstops.1
    rcases h.speaking_started hspeaking with ⟨s, hs, -⟩
    have hnew : c.new ≠ .speaking := by simpa [Change.begins] using hbegins
    rw [heq]
    constructor
    · simp [hnew]
    · simpa using hstarted
    · simp
    · simp
    · simpa using hstarted
    · simp [hs]
  · -- it was silent and stays so
    have hnew : c.new ≠ .speaking := by simpa [Change.begins] using hbegins
    have hsilent : f.speaking = false := by
      rw [Bool.eq_false_iff]
      intro hspeaking
      have hspoke := hold.2 (h.speaking_iff.1 hspeaking)
      simp [Change.stops, hspoke, hnew] at hstops
    rw [heq]
    constructor
    · simp [hsilent, hnew]
    · simpa using hstarted
    · simpa using hended
    · exact h.speaking_started
    · exact h.silent_ended
    · exact h.silent_started

/-- The changes of one agent keep the floor coherent. -/
theorem coherent_changed {cs : List Change} (h : OfOneAgent cs) :
    (quiet.changed cs).Coherent cs.getLast? := by
  induction cs using List.reverseRecOn with
  | nil => exact coherent_quiet
  | append_singleton cs c ih =>
    have hbefore : OfOneAgent cs := by
      constructor
      · exact h.chained.left_of_append
      · intro d hd
        refine h.silent d ?_
        rw [List.head?_append, Option.mem_def.1 hd]
        rfl
      · exact h.forward.left_of_append
    rw [changed_snoc, List.getLast?_concat]
    apply (ih hbefore).change
    · cases hlast : cs.getLast? with
      | none =>
        -- the first change of all does not start in speaking
        rw [List.getLast?_eq_none_iff.1 hlast] at h
        simpa using h.silent c rfl
      | some d =>
        have hold : c.old = d.new := (List.isChain_append.1 h.chained).2.2 d hlast c rfl
        simp [hold]
    · intro d hd
      exact (List.isChain_append.1 h.forward).2.2 d hd c rfl

/-- After any phase changes the floor remembers when the agent was last heard to begin and when it
was last heard to stop, and the agent speaks just if the latest change that touches the floor
entered speaking. A change touches the floor unless neither of its phases is speaking, and then it
leaves the floor as it is. If the changes are those of one agent, then it speaks just if the last
change ended in speaking; it has begun if it has stopped; while it is silent, it has not begun later
than it stopped, and while it speaks, it has not stopped later than it began. -/
theorem speech_times (cs : List Change) :
    (quiet.changed cs).startedAt = (latest (·.begins) cs).map (·.time) ∧
    (quiet.changed cs).endedAt = (latest (·.stops) cs).map (·.time) ∧
    ((quiet.changed cs).speaking = true ↔ ∃ c, lastTouch cs = some c ∧ c.new = .speaking) ∧
    (∀ before c after, cs = before ++ c :: after →
      (touches c.old c.new = false ↔ c.old ≠ .speaking ∧ c.new ≠ .speaking) ∧
      (touches c.old c.new = false → quiet.changed (before ++ [c]) = quiet.changed before)) ∧
    (OfOneAgent cs →
      ((quiet.changed cs).speaking = true ↔ ∃ c, cs.getLast? = some c ∧ c.new = .speaking) ∧
      (∀ e, (quiet.changed cs).endedAt = some e → ∃ s, (quiet.changed cs).startedAt = some s) ∧
      ((quiet.changed cs).speaking = false → ∀ s, (quiet.changed cs).startedAt = some s →
        ∃ e, (quiet.changed cs).endedAt = some e ∧ s.nanos ≤ e.nanos) ∧
      ((quiet.changed cs).speaking = true → ∀ e, (quiet.changed cs).endedAt = some e →
        ∃ s, (quiet.changed cs).startedAt = some s ∧ e.nanos ≤ s.nanos)) := by
  refine ⟨startedAt_changed cs, endedAt_changed cs, speaking_changed_iff cs, ?_, ?_⟩
  · intro before c after _
    refine ⟨c.touches_eq_false_iff, ?_⟩
    intro htouches
    rw [changed_snoc]
    exact change_of_not_touches htouches _ _
  · intro hcs
    have h := coherent_changed hcs
    refine ⟨h.speaking_iff, ?_, h.silent_ended, ?_⟩
    · intro e he
      cases hspeaking : (quiet.changed cs).speaking with
      | true =>
        rcases h.speaking_started hspeaking with ⟨s, hs, -⟩
        exact ⟨s, hs⟩
      | false => exact h.silent_started hspeaking e he
    · intro hspeaking e he
      rcases h.speaking_started hspeaking with ⟨s, hs, hle⟩
      exact ⟨s, hs, hle e he⟩

/-- The agent begins, begins again without a stop, stops and begins once more at the instant at
which it stopped. -/
theorem speech_times_again :
    let cs : List Change := [⟨.thinking, .speaking, ⟨2⟩⟩, ⟨.speaking, .speaking, ⟨5⟩⟩,
      ⟨.speaking, .listening, ⟨9⟩⟩, ⟨.listening, .thinking, ⟨9⟩⟩, ⟨.thinking, .speaking, ⟨9⟩⟩]
    OfOneAgent cs ∧ (quiet.changed cs).speaking = true ∧
      (quiet.changed cs).startedAt = some ⟨9⟩ ∧ (quiet.changed cs).endedAt = some ⟨9⟩ ∧
      ∃ s, (quiet.changed cs).startedAt = some s ∧ 9 ≤ s.nanos := by
  intro cs
  have hcs : OfOneAgent cs := by decide
  obtain ⟨hstarted, hended, hspeaking, -, hagent⟩ := speech_times cs
  have hspeaks : (quiet.changed cs).speaking = true := hspeaking.2 ⟨_, rfl, rfl⟩
  have hstops : (quiet.changed cs).endedAt = some ⟨9⟩ := hended
  exact ⟨hcs, hspeaks, hstarted, hstops, (hagent hcs).2.2.2 hspeaks ⟨9⟩ hstops⟩

end TurnTaking.Floor
