import TurnTaking.Time.Calendar
/-!
# Stamps

A stamp is a date and a time of day, to the nanosecond, in universal time. A leap second is kept
as a second nanosecond range of the last second of a minute. `Stamp.text` writes it with as many
groups of three fraction digits as it needs.
-/

namespace TurnTaking.Time

/-- Whether two numbers name a time of day: the second of the day, and the nanoseconds in it,
which run to two thousand million in the last second of a minute. -/
def IsTime (second nanos : Nat) : Prop :=
  second < 86400 ∧ (nanos < 1000000000 ∨ (nanos < 2000000000 ∧ second % 60 = 59))

instance (second nanos : Nat) : Decidable (IsTime second nanos) := by
  unfold IsTime
  infer_instance

/-- A point in time as a calendar and a clock on the wall show it. -/
structure Stamp where
  date : Date
  /-- The second of the day. -/
  second : Nat
  nanos : Nat
  isTime : IsTime second nanos
deriving DecidableEq

namespace Stamp

/-- The stamp with that date and time of day, if there is such a time. -/
def ofParts? (date : Date) (second nanos : Nat) : Option Stamp :=
  if h : IsTime second nanos then some ⟨date, second, nanos, h⟩ else none

/-- The same time of day a number of seconds of less than a day earlier or later, on the day
before, the same day or the day after. -/
def shift? (s : Stamp) (seconds : Int) : Option Stamp :=
  let moved := (s.second : Int) + seconds
  if moved < 0 then s.date.previous?.bind (ofParts? · (moved + 86400).toNat s.nanos)
  else if 86400 ≤ moved then s.date.next?.bind (ofParts? · (moved - 86400).toNat s.nanos)
  else ofParts? s.date moved.toNat s.nanos

/-! ## Writing -/

/-- The decimal digits of a number, with zeros in front to a given width. -/
def padded (width n : Nat) : List Char :=
  let ds := Nat.toDigits 10 n
  List.replicate (width - ds.length) '0' ++ ds

/-- A year: four digits, and a sign where four do not do. -/
def yearText (year : Int) : List Char :=
  if 0 ≤ year ∧ year ≤ 9999 then padded 4 year.toNat
  else (if year < 0 then '-' else '+') :: padded 4 year.natAbs

/-- A fraction of a second in nanoseconds: none, three, six or nine digits. -/
def fractionText (nanos : Nat) : List Char :=
  if nanos = 0 then []
  else if nanos % 1000000 = 0 then '.' :: padded 3 (nanos / 1000000)
  else if nanos % 1000 = 0 then '.' :: padded 6 (nanos / 1000)
  else '.' :: padded 9 nanos

/-- A stamp as text, in universal time. -/
def text (s : Stamp) : List Char :=
  let second := s.second % 60 + s.nanos / 1000000000
  yearText s.date.year ++ '-' :: padded 2 s.date.month ++ '-' :: padded 2 s.date.day ++
    'T' :: padded 2 (s.second / 3600) ++ ':' :: padded 2 (s.second / 60 % 60) ++
    ':' :: padded 2 second ++ fractionText (s.nanos % 1000000000) ++ ['Z']

end Stamp

end TurnTaking.Time
