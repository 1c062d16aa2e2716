import TurnTaking.Number.Shortest
import TurnTaking.Text.Quoted
/-!
# Structured values

The values that JSON texts denote. Whole numbers of 64 bits are kept exactly, all others as
doubles. A text can be well formed without denoting a value: a string may hold half of a
surrogate pair, and a number may be too large. `Json.unreadable` stands for such a part, so that
a reader that passes over it need not care.
-/

namespace TurnTaking

open Number

/-- A number of a structured text. -/
inductive Json.Num where
  | natural (n : UInt64)
  /-- A whole number below zero, by its distance from zero. -/
  | negative (size : Nat)
  | real (x : Binary64)
deriving DecidableEq, Repr

/-- A structured value; the members of an object are kept in the order of the text. -/
inductive Json where
  | null
  | bool (b : Bool)
  | num (n : Json.Num)
  | str (s : String)
  | arr (items : List Json)
  | obj (members : List (String × Json))
  /-- A well-formed part of a text that denotes nothing. -/
  | unreadable

namespace Json

instance : Inhabited Json :=
  ⟨.null⟩

/-- A whole number. -/
def nat (n : UInt64) : Json :=
  .num (.natural n)

/-! ## Soundness and depth -/

mutual

/-- Whether every part of a value denotes something. -/
def sound : Json → Bool
  | arr items => itemsSound items
  | obj members => membersSound members
  | unreadable => false
  | _ => true

/-- Whether every item of an array is sound. -/
def itemsSound : List Json → Bool
  | [] => true
  | v :: vs => v.sound && itemsSound vs

/-- Whether every member of an object is sound. -/
def membersSound : List (String × Json) → Bool
  | [] => true
  | (_, v) :: ms => v.sound && membersSound ms

end

mutual

/-- How many arrays and objects stand inside each other. -/
def depth : Json → Nat
  | arr items => itemsDepth items + 1
  | obj members => membersDepth members + 1
  | _ => 0

/-- The greatest depth of the items of an array. -/
def itemsDepth : List Json → Nat
  | [] => 0
  | v :: vs => max v.depth (itemsDepth vs)

/-- The greatest depth of the members of an object. -/
def membersDepth : List (String × Json) → Nat
  | [] => 0
  | (_, v) :: ms => max v.depth (membersDepth ms)

end

/-- The depth that a value must stay below. -/
def depthLimit : Nat :=
  128

/-- Whether a value can be read as a whole below `level` arrays and objects. -/
def readableAt (level : Nat) (v : Json) : Bool :=
  v.sound && decide (v.depth + level < depthLimit)

/-! ## Looking into a value -/

/-- The value of the last member with a key. -/
def get? (v : Json) (key : String) : Option Json :=
  match v with
  | obj members => (members.reverse.find? (·.1 == key)).map (·.2)
  | _ => none

/-! ## What a value is called in a message -/

/-- The text of a number. -/
def Num.text : Num → String
  | natural n => String.ofList (Nat.toDigits 10 n.toNat)
  | negative size => String.ofList ('-' :: Nat.toDigits 10 size)
  | real x => x.exactText

/-- A value as a message names it. -/
def describe : Json → String
  | null => "null"
  | bool b => "boolean `" ++ (if b then "true" else "false") ++ "`"
  | num (.real x) => "floating point `" ++ x.exactText ++ "`"
  | num n => "integer `" ++ n.text ++ "`"
  | str s => "string " ++ Text.quote s
  | arr _ => "sequence"
  | obj _ => "map"
  | unreadable => "unreadable"

end Json

end TurnTaking
