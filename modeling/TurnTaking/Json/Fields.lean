import TurnTaking.Json.Misfit
/-!
# Reading records

A record is read from an object by the names of its fields, or from an array by their order. What
has to be known is put together field by field, as a value of `Fields`: the names in order, how
the value of each is checked, and how a record is built once all values are known to fit.

In an object the first fault in the order of the text counts, and only then the first missing
field in the order of the record. Members with other names are passed over.
-/

namespace TurnTaking.Json

/-- Where a value is read from. -/
inductive Source where
  /-- Straight from the text. -/
  | text
  /-- From a part that has been held back until its kind was known. -/
  | held
deriving DecidableEq, Repr

/-- How a record is put together from its fields. -/
structure Fields (α : Type) where
  /-- The names, in the order of the record. -/
  names : List String
  /-- Whether a value fits the field of a name. -/
  check : String → Json → Except Misfit Unit
  /-- The record, from the values by name. -/
  build : (String → Option Json) → Except Misfit α

namespace Fields

variable {α β : Type}

/-- A field, and its value when it is absent. -/
def field (name : String) (read : Reader α) (absent : Except Misfit α) : Fields α where
  names := [name]
  check key v := if key = name then (read v).map fun _ => () else .ok ()
  build look :=
    match look name with
    | some v => read v
    | none => absent

/-- A field that must be there. -/
def required (name : String) (read : Reader α) : Fields α :=
  field name read (.error (.missingField name))

/-- A field that may be left out. -/
def optional (name : String) (read : Reader α) (default : α) : Fields α :=
  field name read (.ok default)

instance : Applicative Fields where
  pure a := { names := [], check := fun _ _ => .ok (), build := fun _ => .ok a }
  seq f x :=
    { names := f.names ++ (x ()).names
      check := fun key v => do
        f.check key v
        (x ()).check key v
      build := fun look => do
        let g ← f.build look
        let a ← (x ()).build look
        return g a }

/-- The first fault of an object's members in the order of the text; `seen` holds the fields that
have already come up. -/
def scan (fs : Fields α) (seen : List String) : List (String × Json) → Except Misfit Unit
  | [] => .ok ()
  | (key, v) :: ms =>
    if key ∈ fs.names then
      if key ∈ seen then .error (.duplicateField key)
      else do
        fs.check key v
        fs.scan (key :: seen) ms
    else fs.scan seen ms

/-- The value of the first member with a key. -/
def lookup (members : List (String × Json)) (key : String) : Option Json :=
  (members.find? (·.1 == key)).map (·.2)

/-- A record from the members of an object. -/
def ofMembers (fs : Fields α) (members : List (String × Json)) : Except Misfit α := do
  fs.scan [] members
  fs.build (lookup members)

/-- A number of elements in words. -/
def elements (n : Nat) : String :=
  String.ofList (Nat.toDigits 10 n) ++ (if n = 1 then " element" else " elements")

/-- The misfit of an array with more items than the record has fields. -/
def tooLong (source : Source) (items fields : Nat) : Misfit :=
  match source with
  | .text => .shape
  | .held => .wrongLength items (elements fields ++ " in sequence")

/-- A record from the items of an array, in the order of its fields. -/
def ofItems (fs : Fields α) (what : String) (source : Source) (items : List Json) :
    Except Misfit α := do
  let members := fs.names.zip items
  fs.scan [] members
  let a ← match fs.build (lookup members) with
    | .error (.missingField name) =>
      .error (.wrongLength (fs.names.idxOf name) (what ++ " with " ++ elements fs.names.length))
    | result => result
  if fs.names.length < items.length then
    throw (tooLong source items.length fs.names.length)
  return a

/-- A record from an object or an array; `what` names it in messages. -/
def read (fs : Fields α) (what : String) (source : Source) : Reader α
  | .obj members => fs.ofMembers members
  | .arr items => fs.ofItems what source items
  | v => .error (mismatch what v)

end Fields

end TurnTaking.Json
