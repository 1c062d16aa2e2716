import TurnTaking.Number.Numeral
import TurnTaking.Text.Blank
import TurnTaking.Time.Stamp
/-!
# Reading stamps

A stamp is read as RFC 3339 writes it, with some freedom: blanks may stand before every number
and before the hyphens, colons and zone, numbers may have fewer digits, a year may have a sign
and then any number of digits, and a space may take the place of the `T`. Each number is checked
as soon as it is read; whether the day exists is seen at the end.
-/

namespace TurnTaking.Time

open Text Number

/-- Why a text is not a stamp. -/
inductive StampError where
  /-- A character that cannot stand there. -/
  | invalid
  /-- The text ends too early. -/
  | tooShort
  /-- A number outside its range, or a day or zone that does not exist. -/
  | outOfRange
  /-- The zone moves the stamp out of the calendar. -/
  | impossible
  /-- Something stands behind the stamp. -/
  | tooLong
deriving DecidableEq, Repr

/-- The text of a stamp's fault. -/
def StampError.message : StampError → String
  | invalid => "input contains invalid characters"
  | tooShort => "premature end of input"
  | outOfRange => "input is out of range"
  | impossible => "no possible date and time matching input"
  | tooLong => "trailing input"

namespace StampReader

/-- A reader of a part of a stamp: what it read, and what is left. -/
abbrev Reader (α : Type) := StateT (List Char) (Except StampError) α

/-- Passes over blanks. -/
def blanks : Reader Unit :=
  modify (stripStart isBlank)

/-- One given character. -/
def exactly (c : Char) : Reader Unit := do
  match ← get with
  | [] => throw .tooShort
  | d :: rest => if d = c then set rest else throw .invalid

/-- A run of digits that starts here; of more than `width` digits the rest is left. -/
def number (width : Option Nat) : Reader Nat := do
  let s ← get
  let reach := match width with
    | some w => s.take w
    | none => s
  let ds := digitsOf reach
  if s.isEmpty then throw .tooShort
  else if ds.isEmpty then throw .invalid
  else if signLimit ≤ readDigits ds then throw .outOfRange
  else
    set (s.drop ds.length)
    return readDigits ds

/-- A number of one or two digits between two bounds, blanks before it. -/
def field (low high : Nat) : Reader Nat := do
  blanks
  let n ← number (some 2)
  if low ≤ n ∧ n ≤ high then return n else throw .outOfRange

/-- The number of a year: up to four digits, or a sign and any number of digits. -/
def yearNumber : Reader Int := do
  match ← get with
  | '-' :: rest =>
    set rest
    return -(← number none : Int)
  | '+' :: rest =>
    set rest
    return (← number none : Int)
  | _ => return (← number (some 4) : Int)

/-- A year, blanks before it. -/
def year : Reader Int := do
  blanks
  let y ← yearNumber
  if -2147483648 ≤ y ∧ y < 2147483648 then return y else throw .outOfRange

/-- A mark between two numbers, blanks before it. -/
def mark (c : Char) : Reader Unit := do
  blanks
  exactly c

/-- The mark between date and time. -/
def dayMark : Reader Unit := do
  match ← get with
  | [] => throw .tooShort
  | c :: rest => if c = 'T' ∨ c = 't' ∨ c = ' ' then set rest else throw .invalid

/-- A fraction of a second, if there is one; digits beyond the ninth are passed over. -/
def fraction : Reader Nat := do
  match ← get with
  | '.' :: rest =>
    set rest
    let n ← number (some 9)
    let width := (digitsOf (rest.take 9)).length
    modify afterDigits
    return n * Nat.pow 10 (9 - width)
  | _ => return 0

/-- Two characters of a zone, by bytes: a lone character of one byte is too little. -/
def pair : Reader (Char × Char) := do
  match ← get with
  | a :: b :: rest =>
    set rest
    return (a, b)
  | [c] => if c.utf8Size < 2 then throw .tooShort else throw .invalid
  | [] => throw .tooShort

/-- Two digits of a zone. -/
def pairNumber : Reader Nat := do
  let (a, b) ← pair
  if a.isDigit ∧ b.isDigit then return 10 * digitValue a + digitValue b else throw .invalid

/-- The sign of a zone. -/
def zoneSign : Reader Bool := do
  match ← get with
  | [] => throw .tooShort
  | c :: rest =>
    set rest
    if c = '+' then return false
    else if c = '-' ∨ c = '−' then return true
    else throw .invalid

/-- The hours and minutes by which a zone is ahead, in seconds. -/
def zoneOffset : Reader Int := do
  let negative ← zoneSign
  let hours ← pairNumber
  modify (stripStart fun c => c == ':' || isBlank c)
  let minutes ← pairNumber
  if 59 < minutes then throw .outOfRange
  let seconds : Int := hours * 3600 + minutes * 60
  return if negative then -seconds else seconds

/-- A zone: `UTC` or `Z` in any case, or an offset. -/
def zone : Reader Int := do
  let s ← get
  if (s.take 3).map Char.toUpper = ['U', 'T', 'C'] then
    set (s.drop 3)
    return 0
  match s with
  | 'Z' :: rest | 'z' :: rest =>
    set rest
    return 0
  | _ => zoneOffset

/-- The numbers of a stamp, each within its range. -/
structure Parts where
  year : Int
  month : Nat
  day : Nat
  hour : Nat
  minute : Nat
  second : Nat
  nanos : Nat
  offset : Int

/-- Reads the numbers of a stamp. -/
def parts : Reader Parts := do
  let year ← year
  mark '-'
  let month ← field 1 12
  mark '-'
  let day ← field 1 31
  dayMark
  let hour ← field 0 23
  mark ':'
  let minute ← field 0 59
  mark ':'
  let second ← field 0 60
  let nanos ← fraction
  blanks
  let offset ← zone
  return { year, month, day, hour, minute, second, nanos, offset }

/-- The stamp that its numbers name. -/
def Parts.stamp (p : Parts) : Except StampError Stamp := do
  let leap := p.second = 60
  let second := p.hour * 3600 + p.minute * 60 + (if leap then 59 else p.second)
  let nanos := p.nanos + (if leap then 1000000000 else 0)
  let some date := Date.ofNumbers? p.year p.month p.day | throw .outOfRange
  let some here := Stamp.ofParts? date second nanos | throw .outOfRange
  if 86400 ≤ p.offset.natAbs then throw .outOfRange
  let some there := here.shift? (-p.offset) | throw .impossible
  return there

end StampReader

open StampReader in
/-- The stamp that a text writes. -/
def Stamp.ofText (s : List Char) : Except StampError Stamp := do
  let (p, rest) ← parts.run s
  if !(stripStart isBlank rest).isEmpty then throw .tooLong
  p.stamp

end TurnTaking.Time
