import Mathlib.Data.Nat.Basic
import TurnTaking.Time.Duration
/-!
# Instants in two parts

An instant is kept as whole seconds and as nanoseconds that do not make a second. A duration is
added part by part: the seconds have to fit, the nanoseconds may carry one second over, and with
that the seconds have to fit again.

The main statement is `SplitInstant.add?_toInstant`: part by part no other instant is reached than
by adding nanoseconds, and there is one in the same cases.
-/

namespace TurnTaking.Time

open Number

/-- An instant in whole seconds and in nanoseconds that do not make a second. -/
structure SplitInstant where
  seconds : Nat
  subsecond : Nat
  inRange : seconds < signLimit
  carried : subsecond < nanosPerSecond
deriving DecidableEq

namespace SplitInstant

/-- The instant as nanoseconds. -/
def toInstant (t : SplitInstant) : Instant :=
  ⟨t.seconds * nanosPerSecond + t.subsecond⟩

/-- The instant so much later, if there is room for it. -/
def add? (t : SplitInstant) (d : Duration) : Option SplitInstant :=
  if hseconds : t.seconds + d.seconds < signLimit then
    if hcarried : t.subsecond + d.subsecond < nanosPerSecond then
      some ⟨t.seconds + d.seconds, t.subsecond + d.subsecond, hseconds, hcarried⟩
    else if hcarry : t.seconds + d.seconds + 1 < signLimit then
      some ⟨t.seconds + d.seconds + 1, t.subsecond + d.subsecond - nanosPerSecond, hcarry, by
        have ht := t.carried
        have hd := d.subsecond_lt
        omega⟩
    else none
  else none

theorem toInstant_injective {t u : SplitInstant} (h : t.toInstant = u.toInstant) : t = u := by
  obtain ⟨seconds, subsecond, _, ht⟩ := t
  obtain ⟨seconds', subsecond', _, hu⟩ := u
  have hnanos := congrArg Instant.nanos h
  simp only [toInstant, nanosPerSecond] at hnanos ht hu
  obtain rfl : seconds = seconds' := by omega
  obtain rfl : subsecond = subsecond' := by omega
  rfl

theorem toInstant_lt_limit (t : SplitInstant) : t.toInstant.nanos < Instant.limit := by
  have hseconds := t.inRange
  have hcarried := t.carried
  simp only [toInstant, Instant.limit, nanosPerSecond] at hcarried ⊢
  omega

/-- The nanoseconds of a sum are those of its parts. -/
theorem nanos_toInstant_add (t : SplitInstant) (d : Duration) :
    t.toInstant.nanos + d.nanos =
      (t.seconds + d.seconds) * nanosPerSecond + (t.subsecond + d.subsecond) := by
  have hd : d.seconds * nanosPerSecond + d.subsecond = d.nanos :=
    congrArg Duration.nanos d.ofParts_seconds_subsecond
  show t.seconds * nanosPerSecond + t.subsecond + d.nanos = _
  rw [Nat.add_mul]
  omega

/-- Adding part by part, with a carry, is adding nanoseconds. -/
theorem add?_toInstant (t : SplitInstant) (d : Duration) :
    (t.add? d).map toInstant = t.toInstant.add? d := by
  have hsum := t.nanos_toInstant_add d
  have ht := t.carried
  have hd := d.subsecond_lt
  rw [Instant.add?, hsum, add?]
  split
  · rename_i hseconds
    split
    · rename_i hcarried
      rw [if_pos]
      · rfl
      · simp only [Instant.limit, nanosPerSecond] at hcarried ⊢
        omega
    · -- the nanoseconds make a second, for which there has to be room as well
      rename_i hcarried
      split
      · rename_i hcarry
        rw [if_pos]
        · simp only [Option.map_some, toInstant, Option.some.injEq, Instant.mk.injEq]
          simp only [nanosPerSecond] at hcarried ⊢
          omega
        · simp only [Instant.limit, nanosPerSecond] at hcarried ht hd ⊢
          omega
      · rename_i hcarry
        rw [if_neg]
        · rfl
        · simp only [Instant.limit, nanosPerSecond] at hcarried ⊢
          omega
  · rename_i hseconds
    rw [if_neg]
    · rfl
    · simp only [Instant.limit, nanosPerSecond]
      omega

theorem add?_eq_none_iff {t : SplitInstant} {d : Duration} :
    t.add? d = none ↔ Instant.limit ≤ t.toInstant.nanos + d.nanos := by
  rw [← Option.map_eq_none_iff (f := toInstant), add?_toInstant, Instant.add?]
  simp

theorem nanos_of_add? {t u : SplitInstant} {d : Duration} (h : t.add? d = some u) :
    u.toInstant.nanos = t.toInstant.nanos + d.nanos := by
  have hmap := t.add?_toInstant d
  rw [h, Option.map_some, Instant.add?] at hmap
  split at hmap
  · exact congrArg Instant.nanos (Option.some.inj hmap)
  · cases hmap

/-- Two durations one after another are added as one. -/
theorem add?_add? (t : SplitInstant) (a b : Duration) :
    ((t.add? a).bind fun u => u.add? b) = t.add? (a + b) := by
  have hinjective : Function.Injective toInstant := fun _ _ h => toInstant_injective h
  apply Option.map_injective hinjective
  rw [add?_toInstant]
  cases ha : t.add? a with
  | none =>
    have hroom := add?_eq_none_iff.1 ha
    rw [Instant.add?, Duration.nanos_add, if_neg (by omega)]
    rfl
  | some u =>
    have hu := nanos_of_add? ha
    rw [Option.bind_some, add?_toInstant, Instant.add?, Instant.add?, Duration.nanos_add, hu,
      Nat.add_assoc]

end SplitInstant

end TurnTaking.Time
