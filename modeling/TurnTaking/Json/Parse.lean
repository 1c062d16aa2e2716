import TurnTaking.Json.Token
/-!
# Reading JSON texts

A machine with a stack builds a value from tokens, one at a time: `Building.step`. The stack holds
the arrays and objects that are still open, innermost first. `ofText?` reads a text; it asks for
the grammar only, so a value may hold parts that denote nothing and may be of any depth.
`Json.sound` says whether they all denote something.
-/

namespace TurnTaking.Json

/-- An array or object that is still open, its parts so far with the last one first. -/
inductive Frame where
  | array (items : List Json)
  | object (members : List (Option String × Json))
  /-- An object in which the value of a key must follow. -/
  | member (members : List (Option String × Json)) (key : Option String)

/-- What may come next. -/
inductive Place where
  /-- A value. -/
  | value
  /-- A value, or the end of the array that has just been opened. -/
  | item
  /-- A key, or the end of the object that has just been opened. -/
  | firstKey
  | key
  | colon
  /-- A comma or the end of what is open; the end of the text if nothing is. -/
  | after
deriving DecidableEq, Repr

/-- A state of the machine: what is open, what may come next, and the value of the text once it is
complete. -/
structure Building where
  stack : List Frame
  place : Place
  result : Option Json

/-- An object with these members; a key that denotes nothing makes the object unreadable. -/
def ofMembers (members : List (Option String × Json)) : Json :=
  match members.mapM fun m => m.1.map fun key => (key, m.2) with
  | some ms => .obj ms
  | none => .unreadable

namespace Building

/-- The machine before the first token. -/
def start : Building :=
  ⟨[], .value, none⟩

/-- The machine after a value that has just been completed. -/
def complete (stack : List Frame) (v : Json) : Option Building :=
  match stack with
  | [] => some ⟨[], .after, some v⟩
  | .array items :: rest => some ⟨.array (v :: items) :: rest, .after, none⟩
  | .member members key :: rest => some ⟨.object ((key, v) :: members) :: rest, .after, none⟩
  | .object _ :: _ => none

/-- The machine after a token where a value may stand. -/
def value (stack : List Frame) : Token → Option Building
  | .scalar v => complete stack v
  | .text s => complete stack (s.elim .unreadable .str)
  | .mark .openArray => some ⟨.array [] :: stack, .item, none⟩
  | .mark .openObject => some ⟨.object [] :: stack, .firstKey, none⟩
  | .mark _ => none

/-- The machine after the end of the innermost array or object. -/
def close (stack : List Frame) (m : Mark) : Option Building :=
  match stack, m with
  | .array items :: rest, .closeArray => complete rest (.arr items.reverse)
  | .object members :: rest, .closeObject => complete rest (ofMembers members.reverse)
  | _, _ => none

/-- The machine after a key. -/
def keyed (stack : List Frame) : Token → Option Building
  | .text key =>
    match stack with
    | .object members :: rest => some ⟨.member members key :: rest, .colon, none⟩
    | _ => none
  | _ => none

/-- The machine after a comma. -/
def next (stack : List Frame) : Option Building :=
  match stack with
  | .array items :: rest => some ⟨.array items :: rest, .value, none⟩
  | .object members :: rest => some ⟨.object members :: rest, .key, none⟩
  | _ => none

/-- The machine after one more token. -/
def step (s : Building) (t : Token) : Option Building :=
  match s.place, t with
  | .value, t => value s.stack t
  | .item, .mark .closeArray => close s.stack .closeArray
  | .item, t => value s.stack t
  | .firstKey, .mark .closeObject => close s.stack .closeObject
  | .firstKey, t => keyed s.stack t
  | .key, t => keyed s.stack t
  | .colon, .mark .colon => some { s with place := .value }
  | .colon, _ => none
  | .after, .mark .comma => next s.stack
  | .after, .mark m => close s.stack m
  | .after, _ => none

/-- The machine after a list of tokens. -/
def run (s : Building) (ts : List Token) : Option Building :=
  ts.foldlM step s

theorem run_append (s : Building) (a b : List Token) :
    s.run (a ++ b) = (s.run a).bind (·.run b) := by
  simp only [run, List.foldlM_append]
  rfl

end Building

/-- The value of a list of tokens. -/
def ofTokens? (ts : List Token) : Option Json :=
  (Building.start.run ts).bind (·.result)

/-- The value of a well-formed text, whose parts need not all denote something. -/
def ofText? (cs : List Char) : Option Json :=
  (tokens? cs).bind ofTokens?

end TurnTaking.Json
