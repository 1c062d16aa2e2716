import TurnTaking.Time.Duration
/-!
# A clock that is moved by hand

The clock stands at an instant and remembers its origin. It is moved on by a duration or set to
an offset from the origin; a move to an instant without room is refused and leaves the clock as
it was.
-/

namespace TurnTaking.Time

/-- A clock: where it started and where it stands. -/
structure Clock where
  origin : Instant
  now : Instant
deriving DecidableEq, Repr

/-- Why a clock cannot be moved. -/
inductive ClockError where
  /-- The instant has no room. -/
  | overflow
deriving DecidableEq, Repr

/-- The text of a clock's refusal. -/
def ClockError.message : ClockError → String
  | overflow => "overflow when adding duration to instant"

namespace Clock

/-- A clock that stands at its origin. -/
def startingAt (origin : Instant) : Clock :=
  ⟨origin, origin⟩

/-- How far the clock stands from its origin. -/
def offset (c : Clock) : Duration :=
  c.now.since c.origin

/-- The clock at a new instant, if there is one. -/
def moveTo (c : Clock) : Option Instant → Except ClockError Clock
  | some t => .ok { c with now := t }
  | none => .error .overflow

/-- The clock moved on by a duration. -/
def advance (c : Clock) (span : Duration) : Except ClockError Clock :=
  c.moveTo (c.now.add? span)

/-- The clock set to an offset from its origin. -/
def setOffset (c : Clock) (offset : Duration) : Except ClockError Clock :=
  c.moveTo (c.origin.add? offset)

/-! ## Sequences of moves -/

/-- What can be done to a clock. -/
inductive Move where
  | advance (span : Duration)
  | setOffset (offset : Duration)
  /-- Looking at the clock. -/
  | read
deriving DecidableEq, Repr

/-- A clock after a move, or the reason why it cannot be moved. -/
def move (c : Clock) : Move → Except ClockError Clock
  | .advance d => c.advance d
  | .setOffset d => c.setOffset d
  | .read => .ok c

/-- A clock after a move; a refused move changes nothing. -/
def attempt (c : Clock) (m : Move) : Clock :=
  match c.move m with
  | .ok c' => c'
  | .error _ => c

/-- A clock after a list of moves, refused ones left out. -/
def attemptAll (c : Clock) (ms : List Move) : Clock :=
  ms.foldl attempt c

/-- A clock set to an offset has that offset. -/
theorem offset_setOffset {c c' : Clock} {d : Duration} (h : c.setOffset d = .ok c') :
    c'.offset = d := by
  simp only [setOffset, moveTo] at h
  split at h
  · rename_i t ht
    cases h
    exact Instant.since_add ht
  · cases h

end Clock

end TurnTaking.Time
