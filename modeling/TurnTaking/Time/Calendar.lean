/-!
# The calendar

Dates of the Gregorian calendar, continued in both directions as far as stamps go, with the day
before and the day after.
-/

namespace TurnTaking.Time

/-- Whether a year has a twenty-ninth of February. -/
def isLeap (year : Int) : Bool :=
  year % 4 == 0 && (year % 100 != 0 || year % 400 == 0)

/-- The days of a month. -/
def daysIn (year : Int) (month : Nat) : Nat :=
  if month = 2 then (if isLeap year then 29 else 28)
  else if month = 4 ∨ month = 6 ∨ month = 9 ∨ month = 11 then 30
  else 31

/-- The first year of the calendar. -/
def firstYear : Int :=
  -262143

/-- The last year of the calendar. -/
def lastYear : Int :=
  262142

/-- Whether three numbers name a day of the calendar. -/
def IsDay (year : Int) (month day : Nat) : Prop :=
  (firstYear ≤ year ∧ year ≤ lastYear) ∧ (1 ≤ month ∧ month ≤ 12) ∧
    (1 ≤ day ∧ day ≤ daysIn year month)

instance (year : Int) (month day : Nat) : Decidable (IsDay year month day) := by
  unfold IsDay
  infer_instance

/-- A day of the calendar. -/
structure Date where
  year : Int
  month : Nat
  day : Nat
  isDay : IsDay year month day
deriving DecidableEq

namespace Date

/-- The day of that name, if there is one. -/
def ofNumbers? (year : Int) (month day : Nat) : Option Date :=
  if h : IsDay year month day then some ⟨year, month, day, h⟩ else none

/-- The day after, if the calendar has it. -/
def next? (d : Date) : Option Date :=
  ofNumbers? d.year d.month (d.day + 1)
    <|> ofNumbers? d.year (d.month + 1) 1
    <|> ofNumbers? (d.year + 1) 1 1

/-- The day before, if the calendar has it. -/
def previous? (d : Date) : Option Date :=
  ofNumbers? d.year d.month (d.day - 1)
    <|> ofNumbers? d.year (d.month - 1) (daysIn d.year (d.month - 1))
    <|> ofNumbers? (d.year - 1) 12 31

theorem ofNumbers?_eq (d : Date) : ofNumbers? d.year d.month d.day = some d := by
  simp [ofNumbers?, d.isDay]

end Date

end TurnTaking.Time
