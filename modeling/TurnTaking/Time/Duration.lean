import TurnTaking.Number.Binary64
import TurnTaking.Number.Word
/-!
# Durations and instants

A duration is a whole number of nanoseconds, and an instant is a duration since an unknown
beginning. An instant has room for 2⁶³ seconds, a duration for 2⁶⁴.

The main statements are `Instant.since_add`, that the time since an earlier instant is what was
added to it, and `Duration.ofSeconds?_mono`, that reading a number of seconds keeps the order.
-/

namespace TurnTaking.Time

open Number

/-- The nanoseconds of a second. -/
def nanosPerSecond : Nat :=
  1000000000

/-! ## Durations -/

/-- A length of time. -/
structure Duration where
  nanos : Nat
deriving DecidableEq, Repr

namespace Duration

/-- No time at all. -/
def zero : Duration :=
  ⟨0⟩

/-- A number of seconds and of further nanoseconds. -/
def ofParts (seconds nanos : Nat) : Duration :=
  ⟨seconds * nanosPerSecond + nanos⟩

/-- A number of milliseconds. -/
def ofMillis (millis : Nat) : Duration :=
  ⟨millis * 1000000⟩

/-- The whole seconds of a duration. -/
def seconds (d : Duration) : Nat :=
  d.nanos / nanosPerSecond

/-- The nanoseconds beyond the whole seconds. -/
def subsecond (d : Duration) : Nat :=
  d.nanos % nanosPerSecond

/-- One duration after another. -/
def add (a b : Duration) : Duration :=
  ⟨a.nanos + b.nanos⟩

instance : Add Duration :=
  ⟨add⟩

/-- The order of durations. -/
def lt (a b : Duration) : Prop :=
  a.nanos < b.nanos

instance : LT Duration :=
  ⟨lt⟩

instance (a b : Duration) : Decidable (a < b) :=
  inferInstanceAs (Decidable (a.nanos < b.nanos))

theorem nanos_add (a b : Duration) : (a + b).nanos = a.nanos + b.nanos :=
  rfl

theorem ofParts_seconds_subsecond (d : Duration) : ofParts d.seconds d.subsecond = d := by
  cases d
  simp [ofParts, seconds, subsecond, Nat.mul_comm, Nat.div_add_mod]

theorem subsecond_lt (d : Duration) : d.subsecond < nanosPerSecond :=
  Nat.mod_lt _ (by decide)

/-- The seconds that a duration has no room for. -/
def secondsLimit : Nat :=
  wordLimit

/-- The duration nearest to a number of seconds, half way between two nanoseconds the even one.
There is none for a number below zero, for one without room, and for what is not a number. -/
def ofSeconds? : Binary64 → Option Duration
  | .finite negative steps =>
    if (negative && steps != 0) || secondsLimit * stepsPerUnit ≤ steps then none
    else some ⟨roundEven (steps * nanosPerSecond) stepsPerUnit⟩
  | _ => none

theorem ofSeconds?_mono {a b : Nat} {da db : Duration} (h : a ≤ b)
    (ha : ofSeconds? (.finite false a) = some da) (hb : ofSeconds? (.finite false b) = some db) :
    da.nanos ≤ db.nanos := by
  simp only [ofSeconds?] at ha hb
  split at ha <;> split at hb <;> simp only [reduceCtorEq, Option.some.injEq] at ha hb
  subst ha
  subst hb
  exact roundEven_mono (Nat.mul_le_mul_right _ h)

end Duration

/-! ## Instants -/

/-- A point in time, as the nanoseconds since a fixed beginning. -/
structure Instant where
  nanos : Nat
deriving DecidableEq, Repr

namespace Instant

/-- The beginning. -/
def zero : Instant :=
  ⟨0⟩

/-- The nanoseconds that an instant has no room for. -/
def limit : Nat :=
  signLimit * nanosPerSecond

/-- The instant so much later, if there is room for it. -/
def add? (t : Instant) (d : Duration) : Option Instant :=
  if t.nanos + d.nanos < limit then some ⟨t.nanos + d.nanos⟩ else none

/-- The time that has passed since another instant; none if that one is later. -/
def since (now earlier : Instant) : Duration :=
  ⟨now.nanos - earlier.nanos⟩

theorem since_add {t u : Instant} {d : Duration} (h : t.add? d = some u) : u.since t = d := by
  simp only [add?] at h
  split at h <;> simp at h
  subst h
  simp [since]

end Instant

end TurnTaking.Time
