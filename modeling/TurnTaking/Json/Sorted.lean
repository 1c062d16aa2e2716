import TurnTaking.Json.Print
import TurnTaking.Text.WordSet
/-!
# Values with sorted keys

The same value with the members of every object in the order of their keys.
-/

namespace TurnTaking.Json

/-- A member put before the first one with a greater key. -/
def placeMember (m : String × Json) : List (String × Json) → List (String × Json)
  | [] => [m]
  | n :: ns =>
    if Text.precedes n.1.toList m.1.toList then n :: placeMember m ns else m :: n :: ns

mutual

/-- A value with the members of its objects sorted by key. -/
def sortKeys : Json → Json
  | arr items => arr (sortItems items)
  | obj members => obj (sortMembers members)
  | v => v

/-- The items of an array, each with sorted keys. -/
def sortItems : List Json → List Json
  | [] => []
  | v :: vs => v.sortKeys :: sortItems vs

/-- The members of an object, sorted by key. -/
def sortMembers : List (String × Json) → List (String × Json)
  | [] => []
  | (key, v) :: ms => placeMember (key, v.sortKeys) (sortMembers ms)

end

end TurnTaking.Json
