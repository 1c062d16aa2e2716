import TurnTaking.Json.Fields
/-!
# Reading choices

A choice between names is written as the name itself, or as an object with the name as its only
key. A choice between records is written as a record with a tag: one more field that holds the
name of the kind. The tag may stand anywhere, so the other fields are held back until it is known;
in an array it comes first.
-/

namespace TurnTaking.Json

variable {α κ : Type}

/-- The choice of a name. -/
def choose (choices : List (String × α)) (name : String) : Except Misfit α :=
  match choices.find? (·.1 == name) with
  | some c => .ok c.2
  | none => .error (.unknownVariant name (choices.map (·.1)))

/-- The value that stands behind a name for which no value is needed. -/
def nothing (source : Source) : Json → Except Misfit Unit
  | .null => .ok ()
  | .obj [] => if source = .held then .ok () else .error (mismatch "unit" (.obj []))
  | v => .error (mismatch "unit" v)

/-- A choice between names. -/
def choice (choices : List (String × α)) (source : Source) : Reader α
  | .str name => choose choices name
  | .obj [(name, v)] => do
    let a ← choose choices name
    nothing source v
    return a
  | .unreadable => .error .unreadable
  | v =>
    match source, v with
    | .text, .obj ((name, w) :: _) => do
      let _ ← choose choices name
      nothing source w
      throw .shape
    | .text, _ => .error .shape
    | .held, .obj _ => .error (.wrongValue "map" "map with a single key")
    | .held, v => .error (mismatch "string or map" v)

/-! ## Tags -/

/-- The kind that a tag names. A tag that has been held back may also be the number of the kind. -/
def readTag (kinds : List (String × κ)) (source : Source) : Reader κ
  | .str name => choose kinds name
  | v =>
    match source, v with
    | .held, .num (.natural n) =>
      match kinds[n.toNat]? with
      | some k => .ok k.2
      | none =>
        .error (.wrongValue v.describe
          ("variant index 0 <= i < " ++ String.ofList (Nat.toDigits 10 kinds.length)))
    | _, v => .error (mismatch "variant identifier" v)

/-- The kind that the members of an object name; `known` is the kind found so far. -/
def findTag (tag : String) (kinds : List (String × κ)) (source : Source) (known : Option κ) :
    List (String × Json) → Except Misfit κ
  | [] =>
    match known with
    | some k => .ok k
    | none => .error (.missingField tag)
  | (key, v) :: ms =>
    if key = tag then
      match known with
      | some _ => .error (.duplicateField tag)
      | none => do
        let k ← readTag kinds source v
        findTag tag kinds source (some k) ms
    else findTag tag kinds source known ms

/-- A record with a tag: its kind, and the record without the tag. -/
def tagged (name tag : String) (kinds : List (String × κ)) (source : Source) : Reader (κ × Json)
  | .obj members => do
    let k ← findTag tag kinds source none members
    return (k, .obj (members.filter (·.1 != tag)))
  | .arr [] => .error (.missingField tag)
  | .arr (v :: items) => do
    let k ← readTag kinds source v
    return (k, .arr items)
  | v => .error (mismatch ("internally tagged enum " ++ name) v)

/-- A reader that holds its value back: the value must denote something as a whole, `level` arrays
and objects around it included. -/
def heldBack (level : Nat) (read : Reader α) : Reader α := fun v =>
  if v.readableAt level then read v else .error .unreadable

end TurnTaking.Json
