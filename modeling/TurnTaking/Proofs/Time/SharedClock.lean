import Mathlib.Algebra.BigOperators.Group.List.Basic
import Mathlib.Algebra.GroupWithZero.Nat
import Mathlib.Data.List.DropRight
import TurnTaking.Proofs.Time.SplitInstant
import TurnTaking.Time.Clock
/-!
# A clock behind a lock

A clock that several parts of a program share keeps its instant behind a lock, and a move that fails
does so with the lock in its hands, which spoils the lock for good. Nothing is lost by that: the
instant is written only once the sum has been worked out, and whoever takes a spoiled lock takes its
content all the same.

The main statements are `SharedClock.Alike.run`, that a spoiled lock is not noticed,
`SharedClock.plain_run`, that the clock behind the lock goes as a clock without one, and
`SharedClock.Stands.run`, where it stands after any moves.
-/

namespace TurnTaking.Time

/-! ## Clocks without a lock -/

namespace Clock

theorem moveTo_attempt (c : Clock) (t : Option Instant) :
    (match c.moveTo t with | .ok c' => c' | .error _ => c) = { c with now := t.getD c.now } := by
  cases t with
  | none => rfl
  | some t => rfl

theorem attempt_advance (c : Clock) (d : Duration) :
    c.attempt (.advance d) = { c with now := (c.now.add? d).getD c.now } :=
  c.moveTo_attempt _

theorem attempt_setOffset (c : Clock) (d : Duration) :
    c.attempt (.setOffset d) = { c with now := (c.origin.add? d).getD c.now } :=
  c.moveTo_attempt _

theorem moveTo_eq_error_iff {c : Clock} {t : Option Instant} :
    c.moveTo t = .error .overflow ↔ t = none := by
  cases t with
  | none => simp [moveTo]
  | some t => simp [moveTo]

end Clock

theorem Instant.add?_eq_none_iff {t : Instant} {d : Duration} :
    t.add? d = none ↔ limit ≤ t.nanos + d.nanos := by
  simp [add?]

/-! ## Locks -/

/-- A value behind a lock, which is spoiled by a holder that fails. -/
structure Locked (α : Type) where
  content : α
  spoiled : Bool
deriving DecidableEq

namespace Locked

variable {α : Type}

/-- Taking a lock gives its content, by way of a refusal if the lock is spoiled. -/
def take (l : Locked α) : Except α α :=
  if l.spoiled then .error l.content else .ok l.content

/-- The content, be it given or in a refusal. -/
def recover : Except α α → α
  | .ok a => a
  | .error a => a

/-- The lock when its holder has written a content, or has failed before that. -/
def release (l : Locked α) : Option α → Locked α
  | some a => { l with content := a }
  | none => { l with spoiled := true }

@[simp] theorem recover_take (l : Locked α) : recover l.take = l.content := by
  rw [take]
  split
  · rfl
  · rfl

theorem content_release (l : Locked α) (a : Option α) :
    (l.release a).content = a.getD l.content := by
  cases a with
  | none => rfl
  | some a => rfl

end Locked

/-! ## Moves -/

/-- A clock whose instant stands behind a lock. -/
structure SharedClock where
  origin : SplitInstant
  hand : Locked SplitInstant
deriving DecidableEq

/-- What comes back from a move: an instant if the clock was looked at. -/
abbrev ClockReply := Except ClockError (Option SplitInstant)

namespace SharedClock

/-- A clock that stands at its origin. -/
def startingAt (origin : SplitInstant) : SharedClock :=
  ⟨origin, ⟨origin, false⟩⟩

/-- Where the clock stands. -/
def now (c : SharedClock) : SplitInstant :=
  Locked.recover c.hand.take

/-- The clock once a new instant has been worked out behind its lock, or could not be. -/
def moveTo (c : SharedClock) (t : Option SplitInstant) : SharedClock × ClockReply :=
  ({ c with hand := c.hand.release t }, if t.isSome then .ok none else .error .overflow)

/-- A move. -/
def perform (c : SharedClock) : Clock.Move → SharedClock × ClockReply
  | .advance d => c.moveTo (c.now.add? d)
  | .setOffset d => c.moveTo (c.origin.add? d)
  | .read => (c, .ok (some c.now))

/-- Moves one after another, and what comes back from them. -/
def run (c : SharedClock) : List Clock.Move → SharedClock × List ClockReply
  | [] => (c, [])
  | m :: ms =>
    let next := (c.perform m).1.run ms
    (next.1, (c.perform m).2 :: next.2)

/-- The nanoseconds at which a move would put the clock. -/
def destination (c : SharedClock) : Clock.Move → Nat
  | .advance d => c.now.toInstant.nanos + d.nanos
  | .setOffset d => c.origin.toInstant.nanos + d.nanos
  | .read => c.now.toInstant.nanos

section

variable {c c' : SharedClock} {m : Clock.Move}

theorem now_eq (c : SharedClock) : c.now = c.hand.content :=
  Locked.recover_take _

theorem moveTo_add?_cases (c : SharedClock) (t : SplitInstant) (d : Duration) :
    (Instant.limit ≤ t.toInstant.nanos + d.nanos ∧
        c.moveTo (t.add? d) =
          ({ c with hand := { c.hand with spoiled := true } }, .error .overflow)) ∨
      ∃ u, u.toInstant.nanos = t.toInstant.nanos + d.nanos ∧
        c.moveTo (t.add? d) = ({ c with hand := { c.hand with content := u } }, .ok none) := by
  cases hadd : t.add? d with
  | none => exact Or.inl ⟨SplitInstant.add?_eq_none_iff.1 hadd, rfl⟩
  | some u => exact Or.inr ⟨u, SplitInstant.nanos_of_add? hadd, rfl⟩

/-- A move without room for its sum spoils the lock and fails; any other one puts the clock at its
destination. -/
theorem perform_cases (c : SharedClock) (m : Clock.Move) :
    (Instant.limit ≤ c.destination m ∧
        c.perform m = ({ c with hand := { c.hand with spoiled := true } }, .error .overflow)) ∨
      ∃ u shown, u.toInstant.nanos = c.destination m ∧
        c.perform m = ({ c with hand := { c.hand with content := u } }, .ok shown) := by
  cases m with
  | advance d =>
    rcases c.moveTo_add?_cases c.now d with hfail | ⟨u, hu, hmove⟩
    · exact Or.inl hfail
    · exact Or.inr ⟨u, none, hu, hmove⟩
  | setOffset d =>
    rcases c.moveTo_add?_cases c.origin d with hfail | ⟨u, hu, hmove⟩
    · exact Or.inl hfail
    · exact Or.inr ⟨u, none, hu, hmove⟩
  | read =>
    refine Or.inr ⟨c.now, some c.now, rfl, ?_⟩
    rw [perform, now_eq]

@[simp] theorem origin_perform : (c.perform m).1.origin = c.origin := by
  rcases c.perform_cases m with ⟨-, h⟩ | ⟨u, shown, -, h⟩
  · rw [h]
  · rw [h]

theorem origin_run (c : SharedClock) (ms : List Clock.Move) : (c.run ms).1.origin = c.origin := by
  induction ms generalizing c with
  | nil => rfl
  | cons m ms ih => exact (ih _).trans origin_perform

/-- A move fails when there is no room for its sum, and in no other case. -/
theorem perform_eq_error_iff :
    (c.perform m).2 = .error .overflow ↔ Instant.limit ≤ c.destination m := by
  rcases c.perform_cases m with ⟨hlimit, h⟩ | ⟨u, shown, hu, h⟩
  · rw [h]
    exact ⟨fun _ => hlimit, fun _ => rfl⟩
  · have hroom := u.toInstant_lt_limit
    rw [h, ← hu]
    simp only [reduceCtorEq, false_iff]
    omega

/-- A move that fails leaves the clock where it stood. -/
theorem now_perform_of_error {e : ClockError} (hfail : (c.perform m).2 = .error e) :
    (c.perform m).1.now = c.now := by
  rcases c.perform_cases m with ⟨-, h⟩ | ⟨u, shown, -, h⟩
  · rw [h, now_eq, now_eq]
  · rw [h] at hfail
    cases hfail

/-- A move that does not fail puts the clock at its destination. -/
theorem nanos_perform (hok : (c.perform m).2.isOk = true) :
    (c.perform m).1.now.toInstant.nanos = c.destination m := by
  rcases c.perform_cases m with ⟨-, h⟩ | ⟨u, shown, hu, h⟩
  · rw [h] at hok
    cases hok
  · rw [h, now_eq]
    exact hu

theorem now_moveTo (t : Option SplitInstant) : (c.moveTo t).1.now = t.getD c.now := by
  rw [now_eq, now_eq]
  exact c.hand.content_release t

/-! ## Spoiled locks -/

/-- Two clocks that differ in nothing but whether their locks are spoiled. -/
def Alike (c c' : SharedClock) : Prop :=
  c.origin = c'.origin ∧ c.now = c'.now

theorem Alike.moveTo (h : c.Alike c') (t : Option SplitInstant) :
    (c.moveTo t).1.Alike (c'.moveTo t).1 ∧ (c.moveTo t).2 = (c'.moveTo t).2 := by
  refine ⟨⟨h.1, ?_⟩, rfl⟩
  rw [now_moveTo, now_moveTo, h.2]

/-- No move tells clocks apart whose locks are not both spoiled. -/
theorem Alike.perform (h : c.Alike c') (m : Clock.Move) :
    (c.perform m).1.Alike (c'.perform m).1 ∧ (c.perform m).2 = (c'.perform m).2 := by
  cases m with
  | advance d =>
    rw [SharedClock.perform, SharedClock.perform, h.2]
    exact h.moveTo _
  | setOffset d =>
    rw [SharedClock.perform, SharedClock.perform, h.1]
    exact h.moveTo _
  | read =>
    rw [SharedClock.perform, SharedClock.perform, h.2]
    exact ⟨h, rfl⟩

theorem Alike.run (h : c.Alike c') (ms : List Clock.Move) :
    (c.run ms).1.Alike (c'.run ms).1 ∧ (c.run ms).2 = (c'.run ms).2 := by
  induction ms generalizing c c' with
  | nil => exact ⟨h, rfl⟩
  | cons m ms ih =>
    obtain ⟨halike, hreply⟩ := h.perform m
    obtain ⟨hafter, hreplies⟩ := ih halike
    refine ⟨hafter, ?_⟩
    rw [SharedClock.run, SharedClock.run, hreply, hreplies]

theorem alike_perform_of_error {e : ClockError} (h : (c.perform m).2 = .error e) :
    (c.perform m).1.Alike c :=
  ⟨origin_perform, now_perform_of_error h⟩

/-! ## The clock without its lock -/

/-- The clock as it is without its lock, with instants in nanoseconds. -/
def plain (c : SharedClock) : Clock :=
  ⟨c.origin.toInstant, c.now.toInstant⟩

theorem plain_startingAt (origin : SplitInstant) :
    (startingAt origin).plain = Clock.startingAt origin.toInstant := by
  rw [plain, now_eq, startingAt, Clock.startingAt]

theorem plain_moveTo (t : Option SplitInstant) :
    (c.moveTo t).1.plain =
      ⟨c.origin.toInstant, (t.map SplitInstant.toInstant).getD c.now.toInstant⟩ := by
  rw [plain, now_moveTo]
  cases t with
  | none => rfl
  | some t => rfl

/-- Behind its lock the clock goes as it does without one. -/
theorem plain_perform (c : SharedClock) (m : Clock.Move) :
    (c.perform m).1.plain = c.plain.attempt m := by
  cases m with
  | advance d =>
    rw [perform, plain_moveTo, SplitInstant.add?_toInstant, Clock.attempt_advance]
    simp only [plain]
  | setOffset d =>
    rw [perform, plain_moveTo, SplitInstant.add?_toInstant, Clock.attempt_setOffset]
    simp only [plain]
  | read => rfl

/-- It fails in the same cases, too. -/
theorem plain_move_eq_error_iff :
    c.plain.move m = .error .overflow ↔ Instant.limit ≤ c.destination m := by
  cases m with
  | advance d =>
    rw [Clock.move, Clock.advance, Clock.moveTo_eq_error_iff, Instant.add?_eq_none_iff, plain,
      destination]
  | setOffset d =>
    rw [Clock.move, Clock.setOffset, Clock.moveTo_eq_error_iff, Instant.add?_eq_none_iff, plain,
      destination]
  | read =>
    have hroom := c.now.toInstant_lt_limit
    simp only [Clock.move, destination, reduceCtorEq, false_iff]
    omega

theorem plain_run (c : SharedClock) (ms : List Clock.Move) :
    (c.run ms).1.plain = c.plain.attemptAll ms := by
  induction ms generalizing c with
  | nil => rfl
  | cons m ms ih =>
    have hnext := ih (c.perform m).1
    rw [plain_perform] at hnext
    exact hnext

end

/-! ## Where a clock stands -/

/-- The offset that a move sets. -/
def offset? : Clock.Move → Option Duration
  | .setOffset d => some d
  | _ => none

/-- The nanoseconds by which a move advances. -/
def span : Clock.Move → Nat
  | .advance d => d.nanos
  | _ => 0

/-- The offset that was set last, zero if none was set. -/
def lastOffset (ms : List Clock.Move) : Duration :=
  (ms.filterMap offset?).getLast?.getD .zero

/-- The moves after the last one that set an offset. -/
def sinceSet (ms : List Clock.Move) : List Clock.Move :=
  ms.rtakeWhile fun m => (offset? m).isNone

/-- The nanoseconds at which moves that succeed leave a clock. -/
def place (origin : Nat) (ms : List Clock.Move) : Nat :=
  origin + (lastOffset ms).nanos + ((sinceSet ms).map span).sum

/-- The moves that did not fail. -/
def succeeded (ms : List Clock.Move) (replies : List ClockReply) : List Clock.Move :=
  (ms.zip replies).filterMap fun p => if p.2.isOk then some p.1 else none

section

variable {c : SharedClock} {m : Clock.Move} {ms : List Clock.Move}

theorem place_nil (origin : Nat) : place origin [] = origin :=
  rfl

theorem place_snoc_set (origin : Nat) (ms : List Clock.Move) (d : Duration) :
    place origin (ms ++ [.setOffset d]) = origin + d.nanos := by
  have hlast : lastOffset (ms ++ [.setOffset d]) = d := by
    simp [lastOffset, offset?]
  have hsince : sinceSet (ms ++ [.setOffset d]) = [] := by
    rw [sinceSet, List.rtakeWhile_concat_neg]
    simp [offset?]
  rw [place, hlast, hsince]
  rfl

theorem place_snoc (origin : Nat) (ms : List Clock.Move) (hm : offset? m = none) :
    place origin (ms ++ [m]) = place origin ms + span m := by
  have hlast : lastOffset (ms ++ [m]) = lastOffset ms := by
    simp [lastOffset, hm]
  have hsince : sinceSet (ms ++ [m]) = sinceSet ms ++ [m] := by
    rw [sinceSet, List.rtakeWhile_concat_pos]
    · rfl
    · simp [hm]
  rw [place, place, hlast, hsince, List.map_append, List.sum_append]
  simp
  omega

/-- A clock stands where the moves that have succeeded put it. -/
def Stands (c : SharedClock) (past : List Clock.Move) : Prop :=
  c.now.toInstant.nanos = place c.origin.toInstant.nanos past

theorem stands_startingAt (origin : SplitInstant) : (startingAt origin).Stands [] := by
  rw [Stands, now_eq, place_nil, startingAt]

/-- A move that succeeds puts the clock where it belongs. -/
theorem Stands.perform {past : List Clock.Move} (h : c.Stands past)
    (hm : (c.perform m).2.isOk = true) :
    (c.perform m).1.Stands (past ++ [m]) := by
  rw [Stands, nanos_perform hm, origin_perform]
  cases m with
  | advance d => rw [place_snoc _ _ rfl, ← h, destination, span]
  | setOffset d => rw [place_snoc_set, destination]
  | read =>
    rw [place_snoc _ _ rfl, ← h, destination]
    exact (Nat.add_zero _).symm

theorem succeeded_cons (m : Clock.Move) (ms : List Clock.Move) (r : ClockReply)
    (rs : List ClockReply) :
    succeeded (m :: ms) (r :: rs) = (if r.isOk then [m] else []) ++ succeeded ms rs := by
  rw [succeeded, List.zip_cons_cons, List.filterMap_cons]
  cases hr : r.isOk with
  | false => rfl
  | true => rfl

theorem Stands.run {past : List Clock.Move} (h : c.Stands past) (ms : List Clock.Move) :
    (c.run ms).1.Stands (past ++ succeeded ms (c.run ms).2) := by
  induction ms generalizing c past with
  | nil => simpa [SharedClock.run, succeeded] using h
  | cons m ms ih =>
    rw [SharedClock.run]
    dsimp only
    rw [succeeded_cons, ← List.append_assoc]
    apply ih
    cases hreply : (c.perform m).2 with
    | ok r =>
      have hok : (c.perform m).2.isOk = true := by
        rw [hreply]
        rfl
      exact h.perform hok
    | error e =>
      -- a move that fails leaves no trace
      have hnone : past ++ (if (Except.error e : ClockReply).isOk then [m] else []) = past :=
        List.append_nil past
      rw [hnone, Stands, now_perform_of_error hreply, origin_perform]
      exact h

/-! ## Advances in a row -/

theorem perform_advance_of_some {d : Duration} {t : SplitInstant} (h : c.now.add? d = some t) :
    c.perform (.advance d) = ({ c with hand := { c.hand with content := t } }, .ok none) := by
  rw [perform, h]
  rfl

theorem perform_advance_eq_ok_iff {d : Duration} :
    (c.perform (.advance d)).2 = .ok none ↔ ∃ t, c.now.add? d = some t := by
  rw [perform]
  cases c.now.add? d with
  | none => simp [moveTo]
  | some t => simp [moveTo]

/-- Two advances in a row succeed when there is room for one by both spans, and are that one. -/
theorem advance_advance (c : SharedClock) (a b : Duration) :
    ((c.perform (.advance a)).2 = .ok none ∧
        ((c.perform (.advance a)).1.perform (.advance b)).2 = .ok none ↔
      (c.perform (.advance (a + b))).2 = .ok none) ∧
      ((c.perform (.advance (a + b))).2 = .ok none →
        (c.perform (.advance a)).1.perform (.advance b) = c.perform (.advance (a + b))) := by
  have hsum := c.now.add?_add? a b
  rw [perform_advance_eq_ok_iff, perform_advance_eq_ok_iff, perform_advance_eq_ok_iff, ← hsum]
  cases ha : c.now.add? a with
  | none => simp
  | some t =>
    have hnow : (c.perform (.advance a)).1.now = t := by
      rw [perform_advance_of_some ha, now_eq]
    rw [hnow, Option.bind_some]
    refine ⟨by simp, ?_⟩
    rintro ⟨u, hb⟩
    rw [ha, Option.bind_some, hb] at hsum
    rw [perform_advance_of_some (hnow ▸ hb), perform_advance_of_some ha,
      perform_advance_of_some hsum.symm]

end

end SharedClock

end TurnTaking.Time
