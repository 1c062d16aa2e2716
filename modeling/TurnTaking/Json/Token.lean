import TurnTaking.Json.Basic
import TurnTaking.Number.Numeral
/-!
# Tokens of a JSON text

A text is cut into tokens by a machine that looks at one character at a time: `Lexing.step`.
Between two tokens there may be blanks. A quoted token is closed by a quote that no backslash
stands before, a bare one (a number or one of three words) by whatever cannot stand in it.

The main statement is `tokens?_append`: a text can be cut in two parts when the first part ends
between two tokens.
-/

namespace TurnTaking.Json

open Number

/-- The characters that stand for themselves. -/
inductive Mark where
  | openArray
  | closeArray
  | openObject
  | closeObject
  | comma
  | colon
deriving DecidableEq, Repr

/-- A token of a text. -/
inductive Token where
  | mark (m : Mark)
  /-- A quoted token; nothing if it holds half of a surrogate pair. -/
  | text (s : Option String)
  /-- A bare token and the value that it denotes. -/
  | scalar (v : Json)

/-- The mark that a character is. -/
def markOf? (c : Char) : Option Mark :=
  match c with
  | '[' => some .openArray
  | ']' => some .closeArray
  | '\x7b' => some .openObject
  | '\x7d' => some .closeObject
  | ',' => some .comma
  | ':' => some .colon
  | _ => none

/-- A blank of a JSON text. -/
def isGap (c : Char) : Bool :=
  c == ' ' || c == '\n' || c == '\t' || c == '\r'

/-! ## Quoted tokens -/

/-- A part of a quoted token: a character, or sixteen bits given by their number. -/
inductive Piece where
  | char (c : Char)
  | unit (n : Nat)
deriving DecidableEq, Repr

/-- The value of a digit in base sixteen. -/
def hexValue? (c : Char) : Option Nat :=
  if c.isDigit then some (c.toNat - '0'.toNat)
  else if 'a' ≤ c ∧ c ≤ 'f' then some (c.toNat - 'a'.toNat + 10)
  else if 'A' ≤ c ∧ c ≤ 'F' then some (c.toNat - 'A'.toNat + 10)
  else none

/-- The character that a backslash and another character stand for. -/
def escapeOf? (c : Char) : Option Char :=
  match c with
  | '"' => some '"'
  | '\\' => some '\\'
  | '/' => some '/'
  | 'b' => some '\x08'
  | 'f' => some '\x0c'
  | 'n' => some '\n'
  | 'r' => some '\r'
  | 't' => some '\t'
  | _ => none

/-- Four digits in base sixteen. -/
def hexUnit? (a b c d : Char) : Option Nat := do
  return (((← hexValue? a) * 16 + (← hexValue? b)) * 16 + (← hexValue? c)) * 16 + (← hexValue? d)

/-- The parts of what stands between quotes; nothing if an escape is malformed. -/
def pieces? : List Char → Option (List Piece)
  | [] => some []
  | '\\' :: 'u' :: a :: b :: c :: d :: rest => do
    let n ← hexUnit? a b c d
    return .unit n :: (← pieces? rest)
  | '\\' :: e :: rest => do
    let c ← escapeOf? e
    return .char c :: (← pieces? rest)
  | c :: rest => if c = '\\' then none else do return .char c :: (← pieces? rest)

/-- Whether sixteen bits are the first half of a surrogate pair. -/
def isHighHalf (n : Nat) : Bool :=
  0xD800 ≤ n && n < 0xDC00

/-- Whether sixteen bits are the second half of a surrogate pair. -/
def isLowHalf (n : Nat) : Bool :=
  0xDC00 ≤ n && n < 0xE000

/-- The characters of a list of parts; nothing if half of a pair stands alone. -/
def joinPieces? : List Piece → Option (List Char)
  | [] => some []
  | .char c :: rest => do return c :: (← joinPieces? rest)
  | .unit n :: .unit m :: rest =>
    if isHighHalf n then
      if isLowHalf m then do
        return Char.ofNat (0x10000 + (n - 0xD800) * 0x400 + (m - 0xDC00)) :: (← joinPieces? rest)
      else none
    else if isLowHalf n then none
    else do return Char.ofNat n :: (← joinPieces? (.unit m :: rest))
  | .unit n :: rest =>
    if isHighHalf n || isLowHalf n then none
    else do return Char.ofNat n :: (← joinPieces? rest)

/-- The token between two quotes. -/
def readQuoted? (raw : List Char) : Option Token :=
  (pieces? raw).map fun ps => .text ((joinPieces? ps).map String.ofList)

/-! ## Bare tokens -/

/-- Reads digits on while the number has room in 64 bits: the number, and how many digits are left
over. -/
def takeFitting (acc : Nat) : List Char → Nat × Nat
  | [] => (acc, 0)
  | c :: cs =>
    let next := 10 * acc + digitValue c
    if next < wordLimit then takeFitting next cs else (acc, cs.length + 1)

/-- The steps of the double nearest to a power of ten. -/
def tenPower (e : Nat) : Nat :=
  Binary64.roundSteps (Nat.pow 10 e * stepsPerUnit) 1

/-- A significand of 64 bits times a power of ten, as a double: the significand and the power are
rounded first, then their product or quotient. Nothing if the result is too large. -/
def realOf? (significand : Nat) (exponent : Int) : Option Binary64 :=
  let x := Binary64.ofNat significand
  let size := exponent.natAbs
  if x.isZero then some x
  else if 0 ≤ exponent then
    if 308 < size then none
    else match x.scale (tenPower size) with
      | .finite negative steps => some (.finite negative steps)
      | _ => none
  else if size ≤ 308 then some (x.shrink (tenPower size))
  else if size ≤ 616 then some ((x.shrink (tenPower 308)).shrink (tenPower (size - 308)))
  else some (.finite false 0)

/-- A value for a real number, which may be too large to have one. -/
def ofReal (negative : Bool) : Option Binary64 → Json
  | some x => .num (.real (if negative then x.neg else x))
  | none => .unreadable

/-- A value for a whole number; zero with a minus sign is no whole number. -/
def ofWhole (negative : Bool) (n : Nat) : Json :=
  if !negative then .num (.natural (.ofNat n))
  else if n = 0 ∨ signLimit < n then ofReal true (some (.ofNat n))
  else .num (.negative n)

/-- The power of ten at the end of a number, if one is written. -/
def readExponent? : List Char → Option (Option Int)
  | [] => some none
  | rest => (readPower rest).map some

/-- The digits behind a point, at least one, if there is a point. -/
def readFraction? : List Char → Option (List Char × List Char)
  | '.' :: cs => if (digitsOf cs).isEmpty then none else some (digitsOf cs, afterDigits cs)
  | cs => some ([], cs)

/-- The digits before the point: no zero stands before another digit. -/
def readWhole? (s : List Char) : Option (List Char × List Char) :=
  let ds := digitsOf s
  if ds.isEmpty ∨ (1 < ds.length ∧ ds.head? = some '0') then none else some (ds, afterDigits s)

/-- The value of a number without its sign. -/
def readUnsigned? (negative : Bool) (s : List Char) : Option Json := do
  let (whole, rest) ← readWhole? s
  let (fraction, rest) ← readFraction? rest
  let power ← readExponent? rest
  let (high, beyond) := takeFitting 0 whole
  let (significand, left) := takeFitting high fraction
  let taken := fraction.length - left
  if fraction.isEmpty && power.isNone && beyond = 0 then return ofWhole negative high
  else return ofReal negative (realOf? significand (beyond - taken + power.getD 0))

/-- The value of a number. -/
def readNumber? : List Char → Option Json
  | '-' :: cs => readUnsigned? true cs
  | cs => readUnsigned? false cs

/-- The value of a bare token. -/
def readBare? (cs : List Char) : Option Json :=
  if cs = "null".toList then some .null
  else if cs = "true".toList then some (.bool true)
  else if cs = "false".toList then some (.bool false)
  else readNumber? cs

/-! ## The machine -/

/-- What the machine is in the middle of. -/
inductive Pending where
  | nothing
  /-- A bare token, last character first. -/
  | bare (rev : List Char)
  /-- A quoted token, last character first, and whether a backslash has just been read. -/
  | quoted (rev : List Char) (escaped : Bool)

/-- A state of the machine: the tokens so far, last one first, and what is not finished. -/
structure Lexing where
  done : List Token
  pending : Pending

namespace Lexing

/-- The machine before the first character. -/
def start : Lexing :=
  ⟨[], .nothing⟩

/-- A character between two tokens. -/
def begin (done : List Token) (c : Char) : Lexing :=
  if isGap c then ⟨done, .nothing⟩
  else if c = '"' then ⟨done, .quoted [] false⟩
  else match markOf? c with
    | some m => ⟨.mark m :: done, .nothing⟩
    | none => ⟨done, .bare [c]⟩

/-- Whether a character ends a bare token. -/
def endsBare (c : Char) : Bool :=
  isGap c || c == '"' || (markOf? c).isSome

/-- The machine after one more character. -/
def step (s : Lexing) (c : Char) : Option Lexing :=
  match s.pending with
  | .nothing => some (begin s.done c)
  | .bare rev =>
    if endsBare c then (readBare? rev.reverse).map fun v => begin (.scalar v :: s.done) c
    else some { s with pending := .bare (c :: rev) }
  | .quoted rev true => some { s with pending := .quoted (c :: rev) false }
  | .quoted rev false =>
    if c = '"' then (readQuoted? rev.reverse).map fun t => ⟨t :: s.done, .nothing⟩
    else if c.toNat < 0x20 then none
    else some { s with pending := .quoted (c :: rev) (c == '\\') }

/-- The machine after a text. -/
def run (s : Lexing) (cs : List Char) : Option Lexing :=
  cs.foldlM step s

/-- The tokens of a finished text. -/
def finish (s : Lexing) : Option (List Token) :=
  match s.pending with
  | .nothing => some s.done.reverse
  | .bare rev => (readBare? rev.reverse).map fun v => (.scalar v :: s.done).reverse
  | .quoted _ _ => none

theorem run_append (s : Lexing) (a b : List Char) : s.run (a ++ b) = (s.run a).bind (·.run b) := by
  simp only [run, List.foldlM_append]
  rfl

end Lexing

/-- The tokens of a text. -/
def tokens? (cs : List Char) : Option (List Token) :=
  (Lexing.start.run cs).bind (·.finish)

theorem tokens?_append (a b : List Char) :
    tokens? (a ++ b) = (Lexing.start.run a).bind fun s => (s.run b).bind (·.finish) := by
  rw [tokens?, Lexing.run_append]
  cases Lexing.start.run a <;> rfl

end TurnTaking.Json
