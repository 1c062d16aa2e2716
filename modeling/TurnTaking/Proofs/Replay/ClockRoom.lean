import TurnTaking.Proofs.Replay.Tracking
import TurnTaking.Proofs.Time.SharedClock
/-!
# Room on a replay's clock

A replay moves its clock by offsets that a script names in milliseconds, in words of 64 bits. An
instant has room for all of them, so that a script never stops the clock; what else is done to a
clock may fail, and leaves no trace then.

The main statement is `clock_keeps_time`.
-/

namespace TurnTaking.Replay

open Time Number SharedClock

/-- Room behind an instant for as many milliseconds as there are words. -/
def HasRoom (origin : Instant) : Prop :=
  origin.nanos + (Duration.ofMillis wordLimit).nanos ≤ Instant.limit

theorem HasRoom.lt {origin : Instant} (h : HasRoom origin) (m : UInt64) :
    origin.nanos + (Duration.ofMillis m.toNat).nanos < Instant.limit := by
  have hword : m.toNat < wordLimit := m.toNat_lt
  simp only [HasRoom, Duration.ofMillis] at h ⊢
  omega

/-- A script is fed to its end whatever its times are. -/
theorem feed_eq_ok {clock : Clock} (h : HasRoom clock.origin) (s : Sitting)
    (entries : List ScriptEntry) : ∃ t, feed .zero s clock .zero entries = .ok t := by
  induction entries generalizing s clock with
  | nil => exact ⟨s, rfl⟩
  | cons entry rest ih =>
    have hset := setOffset_of_fits (h.lt entry.atMs)
    -- no event is late
    have hzero : ∀ d : Duration, d + .zero = d := fun _ => rfl
    rw [feed, hzero, hzero, hset]
    refine ih ?_ _
    exact h

theorem setOffset_eq_ok {c : SharedClock} (h : HasRoom c.origin.toInstant) (m : UInt64) :
    (c.perform (.setOffset (.ofMillis m.toNat))).2 = .ok none := by
  have hroom := h.lt m
  rcases c.moveTo_add?_cases c.origin (.ofMillis m.toNat) with ⟨hlimit, -⟩ | ⟨u, -, hmove⟩
  · omega
  · rw [perform, hmove]

/-- A move fails when there is no room for its sum, and nothing shows later that it was tried. Moves
that do not fail put the clock at the offset that was set last, and by all later advances behind it.
Advances in a row are one advance. No offset that a script names fails, from an origin that has
room. -/
theorem clock_keeps_time :
    (∀ (c : SharedClock) (m : Clock.Move),
      ((c.perform m).2 = .error .overflow ↔ Instant.limit ≤ c.destination m) ∧
        (c.plain.move m = .error .overflow ↔ Instant.limit ≤ c.destination m) ∧
        ((c.perform m).2 = .error .overflow →
          (c.perform m).1.now = c.now ∧
            ∀ ms, ((c.perform m).1.run ms).2 = (c.run ms).2 ∧
              ((c.perform m).1.run ms).1.now = (c.run ms).1.now)) ∧
      (∀ (origin : SplitInstant) (ms : List Clock.Move),
        let after := (SharedClock.startingAt origin).run ms
        let past := succeeded ms after.2
        after.1.plain = (Clock.startingAt origin.toInstant).attemptAll ms ∧
          after.1.now.seconds * nanosPerSecond + after.1.now.subsecond =
            origin.toInstant.nanos + (lastOffset past).nanos + ((sinceSet past).map span).sum ∧
          after.1.now.subsecond < nanosPerSecond) ∧
      (∀ (c : SharedClock) (a b : Duration),
        (c.perform (.advance a)).2 = .ok none →
        ((c.perform (.advance a)).1.perform (.advance b)).2 = .ok none →
        c.perform (.advance (a + b)) = (c.perform (.advance a)).1.perform (.advance b)) ∧
      (∀ c : SharedClock, HasRoom c.origin.toInstant → ∀ m : UInt64,
        (c.perform (.setOffset (.ofMillis m.toNat))).2 = .ok none) ∧
      ∀ origin : Instant, HasRoom origin → ∀ (s : Sitting) (entries : List ScriptEntry),
        ∃ t, feed .zero s (.startingAt origin) .zero entries = .ok t := by
  refine ⟨?untraced, ?exact, ?merged, fun c h m => setOffset_eq_ok h m,
    fun origin h s entries => feed_eq_ok h s entries⟩
  case untraced =>
    intro c m
    refine ⟨perform_eq_error_iff, plain_move_eq_error_iff, ?_⟩
    intro hfail
    refine ⟨now_perform_of_error hfail, ?_⟩
    intro ms
    obtain ⟨⟨-, hnow⟩, hreplies⟩ := (alike_perform_of_error hfail).run ms
    exact ⟨hreplies, hnow⟩
  case exact =>
    intro origin ms after past
    have hstands : after.1.Stands past := (stands_startingAt origin).run ms
    have horigin : after.1.origin = origin := origin_run _ ms
    rw [Stands, horigin] at hstands
    refine ⟨?_, hstands, after.1.now.carried⟩
    rw [plain_run, plain_startingAt]
  case merged =>
    intro c a b ha hb
    obtain ⟨hboth, hmerged⟩ := c.advance_advance a b
    exact (hmerged (hboth.1 ⟨ha, hb⟩)).symm

/-- The beginning, in two parts. -/
def dawn : SplitInstant :=
  ⟨0, 0, by decide, by decide⟩

theorem clock_keeps_time_after_failure :
    let start := SharedClock.startingAt dawn
    let moves := [.setOffset ⟨2700000000⟩, .advance ⟨Instant.limit⟩, .advance ⟨400000000⟩]
    (start.run moves).2 = [.ok none, .error .overflow, .ok none] ∧
      (start.run moves).1.now.seconds * nanosPerSecond + (start.run moves).1.now.subsecond =
        3100000000 ∧
      ((start.perform (.advance ⟨Instant.limit⟩)).1.run moves).2 = (start.run moves).2 ∧
      start.perform (.advance (⟨700000000⟩ + ⟨600000000⟩)) =
        (start.perform (.advance ⟨700000000⟩)).1.perform (.advance ⟨600000000⟩) ∧
      (start.perform (.setOffset (.ofMillis (18446744073709551615 : UInt64).toNat))).2 = .ok none ∧
      ∃ t, feed .zero (.fresh (.withPlaces 1) .standard .willing) (.startingAt .zero) .zero
        [⟨18446744073709551615, .phaseChange ⟨.idle, .speaking, .onArrival⟩⟩] = .ok t := by
  intro start moves
  obtain ⟨huntraced, hexact, hmerged, hset, hfeed⟩ := clock_keeps_time
  have hroom : HasRoom .zero := by
    rw [HasRoom]
    decide
  have hstart : HasRoom start.origin.toInstant := by
    rw [HasRoom]
    decide
  have hreplies : (start.run moves).2 = [.ok none, .error .overflow, .ok none] := by
    decide
  have hfailed : (start.perform (.advance ⟨Instant.limit⟩)).2 = .error .overflow := by
    decide
  refine ⟨hreplies, ?_, ?_, ?_, ?_, ?_⟩
  · have hsum := (hexact dawn moves).2.1
    rw [hreplies] at hsum
    exact hsum.trans (by decide)
  · exact (((huntraced start (.advance ⟨Instant.limit⟩)).2.2 hfailed).2 moves).1
  · exact hmerged start ⟨700000000⟩ ⟨600000000⟩ (by decide) (by decide)
  · exact hset start hstart _
  · exact hfeed .zero hroom _ _

end TurnTaking.Replay
