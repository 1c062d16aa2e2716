import Mathlib.Data.List.Induction
import TurnTaking.Floor
/-!
# The latest touch of the floor

A floor remembers three things of all the phase changes that it has seen. Here it is shown that
these tell exactly the latest change that entered or left speaking, whatever the order of the
phases and of the instants was.

The main statements are `changed_of_lastTouch`, that the latest touch fixes what the floor says
about speech, and `overlaps_changed_iff`, that what is said now overlaps the agent's speech just if
the latest touch entered speaking or left it within the grace window.
-/

namespace TurnTaking

open Time

namespace Floor

/-- A phase change, and the instant at which it is heard of. -/
structure Change where
  old : Phase
  new : Phase
  time : Instant
deriving DecidableEq, Repr

/-- Whether a phase change enters or leaves speaking. -/
def Change.touches (c : Change) : Bool :=
  Floor.touches c.old c.new

/-- The floor after a list of phase changes. -/
def changed (f : Floor) (cs : List Change) : Floor :=
  cs.foldl (fun f c => f.change c.old c.new c.time) f

/-- The latest of the phase changes of a kind. -/
def latest (p : Change → Bool) (cs : List Change) : Option Change :=
  (cs.filter p).getLast?

/-- The latest of the phase changes that enter or leave speaking. -/
def lastTouch (cs : List Change) : Option Change :=
  (cs.filter (·.touches)).getLast?

/-! ## One more change -/

@[simp] theorem changed_nil (f : Floor) : f.changed [] = f :=
  rfl

theorem changed_append (f : Floor) (cs ds : List Change) :
    f.changed (cs ++ ds) = (f.changed cs).changed ds := by
  rw [changed, changed, changed, List.foldl_append]

theorem changed_snoc (f : Floor) (cs : List Change) (c : Change) :
    f.changed (cs ++ [c]) = (f.changed cs).change c.old c.new c.time := by
  rw [changed_append]
  rfl

theorem latest_snoc_of_pos {p : Change → Bool} {c : Change} (hc : p c = true) (cs : List Change) :
    latest p (cs ++ [c]) = some c := by
  rw [latest, List.filter_append, List.filter_cons_of_pos hc, List.filter_nil,
    List.getLast?_concat]

theorem latest_snoc_of_neg {p : Change → Bool} {c : Change} (hc : p c = false)
    (cs : List Change) : latest p (cs ++ [c]) = latest p cs := by
  have hne : ¬ p c = true := by simp [hc]
  rw [latest, List.filter_append, List.filter_cons_of_neg hne, List.filter_nil, List.append_nil,
    latest]

@[simp] theorem lastTouch_nil : lastTouch [] = none :=
  rfl

theorem lastTouch_snoc_of_touches {c : Change} (hc : c.touches = true) (cs : List Change) :
    lastTouch (cs ++ [c]) = some c :=
  latest_snoc_of_pos hc cs

theorem lastTouch_snoc_of_not_touches {c : Change} (hc : c.touches = false) (cs : List Change) :
    lastTouch (cs ++ [c]) = lastTouch cs :=
  latest_snoc_of_neg hc cs

/-! ## What a floor tells -/

/-- What a floor tells when `last` was the latest change that touched it. -/
def Tells (f : Floor) : Option Change → Prop
  | none => f = quiet
  | some c =>
    if c.new = .speaking then f.speaking = true ∧ f.startedAt = some c.time
    else f.speaking = false ∧ f.endedAt = some c.time

/-- A floor that has just been touched tells that change. -/
theorem tells_change {c : Change} (hc : c.touches = true) (f : Floor) :
    (f.change c.old c.new c.time).Tells (some c) := by
  simp only [Change.touches, touches, Bool.or_eq_true] at hc
  simp only [Tells]
  split
  · rename_i hnew
    simp [change, Phase.isSpeaking, hnew]
  · rename_i hnew
    -- it touches the floor, so it left speaking
    have hnew' : c.new.isSpeaking = false := by simpa [Phase.isSpeaking] using hnew
    have hold : c.old.isSpeaking = true := by simpa [hnew'] using hc
    simp [change, hnew', hold]

/-- A floor tells the latest change that touched it. -/
theorem changed_of_lastTouch (cs : List Change) : (quiet.changed cs).Tells (lastTouch cs) := by
  -- the induction is on the last change, since the latest touch is found from that end
  induction cs using List.reverseRecOn with
  | nil => rfl
  | append_singleton cs c ih =>
    rw [changed_snoc]
    cases hc : c.touches with
    | true =>
      rw [lastTouch_snoc_of_touches hc]
      exact tells_change hc _
    | false =>
      rw [lastTouch_snoc_of_not_touches hc, change_of_not_touches hc]
      exact ih

/-- What is said now overlaps the agent's speech just if the latest touch of the floor entered
speaking, or left it less than the grace window ago. -/
theorem overlaps_changed_iff (cs : List Change) (now : Instant) (grace : Duration) :
    (quiet.changed cs).overlaps now grace = true ↔
      ∃ c, lastTouch cs = some c ∧ (c.new = .speaking ∨ now.since c.time < grace) := by
  have htells := changed_of_lastTouch cs
  cases hlast : lastTouch cs with
  | none =>
    rw [hlast] at htells
    have hquiet : quiet.changed cs = quiet := htells
    rw [hquiet]
    simp [overlaps, quiet, sinceEnded]
  | some c =>
    rw [hlast] at htells
    simp only [Tells] at htells
    split at htells
    · rename_i hnew
      simp [overlaps, htells.1, hnew]
    · rename_i hnew
      simp [overlaps, sinceEnded, htells.1, htells.2, hnew]

end Floor

end TurnTaking
