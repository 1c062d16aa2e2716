import TurnTaking.Number.Binary64
import TurnTaking.Number.Word
/-!
# Numerals

How a number is written by hand: an optional sign, then `inf`, `infinity` or `nan` in any
case, or digits with an optional point and an optional power of ten, as in `-12.5e3`. At least
one digit stands before or after the point.
-/

namespace TurnTaking.Number

/-! ## Digits -/

/-- The value of a decimal digit. -/
def digitValue (c : Char) : Nat :=
  c.toNat - '0'.toNat

/-- The number that follows `acc` when digits are read on. -/
def readDigitsFrom (acc : Nat) (ds : List Char) : Nat :=
  ds.foldl (fun n c => 10 * n + digitValue c) acc

/-- The number that a run of decimal digits names. -/
def readDigits (ds : List Char) : Nat :=
  readDigitsFrom 0 ds

/-- The leading decimal digits of a text. -/
def digitsOf (s : List Char) : List Char :=
  s.takeWhile Char.isDigit

/-- A text without its leading decimal digits. -/
def afterDigits (s : List Char) : List Char :=
  s.dropWhile Char.isDigit

theorem digitsOf_append_afterDigits (s : List Char) : digitsOf s ++ afterDigits s = s :=
  List.takeWhile_append_dropWhile

/-- A sign and what follows it: whether it is a minus. -/
def takeSign : List Char → Bool × List Char
  | '-' :: cs => (true, cs)
  | '+' :: cs => (false, cs)
  | cs => (false, cs)

/-! ## Numerals -/

/-- A numeral, sign apart: a special number, or `digits · 10 ^ exponent`. -/
inductive Numeral where
  | decimal (digits : Nat) (exponent : Int)
  | infinity
  | notANumber
deriving DecidableEq, Repr

/-- The power of ten at the end of a numeral; nothing is written for the power zero. -/
def readPower : List Char → Option Int
  | [] => some 0
  | c :: cs =>
    if c = 'e' ∨ c = 'E' then
      let (negative, ds) := takeSign cs
      if ds.isEmpty || !ds.all Char.isDigit then none
      else some (if negative then -(readDigits ds : Int) else readDigits ds)
    else none

/-- A point and the digits behind it, if there is one, and what follows. -/
def takeFraction : List Char → List Char × List Char
  | '.' :: cs => (digitsOf cs, afterDigits cs)
  | cs => ([], cs)

/-- A numeral without a sign. -/
def readUnsigned (s : List Char) : Option Numeral :=
  let low := s.map Char.toLower
  if low = "inf".toList ∨ low = "infinity".toList then some .infinity
  else if low = "nan".toList then some .notANumber
  else
    let whole := digitsOf s
    let (fraction, rest) := takeFraction (afterDigits s)
    if whole.isEmpty && fraction.isEmpty then none
    else (readPower rest).map fun power =>
      .decimal (readDigits (whole ++ fraction)) (power - fraction.length)

/-- The number nearest to a numeral. -/
def Numeral.value (negative : Bool) : Numeral → Binary64
  | decimal digits exponent => .ofDecimal negative digits exponent
  | infinity => .infinite negative
  | notANumber => .notANumber

/-- The number that a text writes; nothing if it is no numeral. -/
def Binary64.ofText? (s : List Char) : Option Binary64 :=
  let (negative, rest) := takeSign s
  (readUnsigned rest).map (·.value negative)

/-- The natural number of 64 bits that a text writes, a plus sign allowed. -/
def natOfText? (s : List Char) : Option Nat :=
  let ds := match s with
    | '+' :: cs => cs
    | cs => cs
  if ds.isEmpty || !ds.all Char.isDigit then none
  else
    let n := readDigits ds
    if n < wordLimit then some n else none

end TurnTaking.Number
