import TurnTaking.Json.Parse
import TurnTaking.Time.StampReader
/-!
# Why a value does not fit

The faults that a value can have when it is read as a value of a given type, with the text of each,
and the readers of the simplest types.
-/

namespace TurnTaking.Json

open Time

/-- Why a value is not one of a type. -/
inductive Misfit where
  | missingField (name : String)
  | duplicateField (name : String)
  | unknownVariant (name : String) (known : List String)
  /-- A value of another kind, as a message names it. -/
  | wrongType (found wanted : String)
  | wrongValue (found wanted : String)
  | wrongLength (length : Nat) (wanted : String)
  | badStamp (fault : StampError)
  /-- A form that has no name of its own. -/
  | shape
  /-- A part that denotes nothing. -/
  | unreadable
deriving DecidableEq, Repr

/-- A name as a message shows it. -/
def ticked (name : String) : String :=
  "`" ++ name ++ "`"

/-- The text of a misfit; two of them have none. -/
def Misfit.message : Misfit → Option String
  | missingField name => some ("missing field " ++ ticked name)
  | duplicateField name => some ("duplicate field " ++ ticked name)
  | unknownVariant name known =>
    some ("unknown variant " ++ ticked name ++ ", expected one of " ++
      ", ".intercalate (known.map ticked))
  | wrongType found wanted => some ("invalid type: " ++ found ++ ", expected " ++ wanted)
  | wrongValue found wanted => some ("invalid value: " ++ found ++ ", expected " ++ wanted)
  | wrongLength length wanted =>
    some ("invalid length " ++ String.ofList (Nat.toDigits 10 length) ++ ", expected " ++ wanted)
  | badStamp fault => some fault.message
  | shape => none
  | unreadable => none

/-- The misfit of a value of another kind than the one wanted. -/
def mismatch (wanted : String) : Json → Misfit
  | .unreadable => .unreadable
  | v => .wrongType v.describe wanted

/-- A reader of values of a type. -/
abbrev Reader (α : Type) := Json → Except Misfit α

namespace Reader

/-- A whole number of 64 bits. -/
def word : Reader UInt64
  | .num (.natural n) => .ok n
  | .num (.negative size) => .error (.wrongValue (Json.num (.negative size)).describe "u64")
  | v => .error (mismatch "u64" v)

/-- A text. -/
def string : Reader String
  | .str s => .ok s
  | v => .error (mismatch "a string" v)

/-- A truth value. -/
def boolean : Reader Bool
  | .bool b => .ok b
  | v => .error (mismatch "a boolean" v)

/-- A stamp. -/
def stamp : Reader Stamp
  | .str s =>
    match Stamp.ofText s.toList with
    | .ok t => .ok t
    | .error fault => .error (.badStamp fault)
  | v => .error (mismatch "an RFC 3339 formatted date and time string" v)

/-- A value that may be null. -/
def nullable {α : Type} (read : Reader α) : Reader (Option α)
  | .null => .ok none
  | v => (read v).map some

end Reader

/-! ## Reading a text -/

/-- Why a text is not a value of a type. -/
inductive TextFault where
  /-- The text denotes no value at all. -/
  | malformed
  | misfit (fault : Misfit)
deriving DecidableEq, Repr

/-- The text of a fault, if it has one. -/
def TextFault.message : TextFault → Option String
  | malformed => none
  | misfit fault => fault.message

/-- Reads a text as a value of a type. A text that does not fit is only called a misfit if it
denotes a value as a whole. -/
def readText {α : Type} (read : Reader α) (cs : List Char) : Except TextFault α :=
  match ofText? cs with
  | none => .error .malformed
  | some v =>
    match read v with
    | .ok a => .ok a
    | .error fault => .error (if v.readableAt 0 then .misfit fault else .malformed)

end TurnTaking.Json
