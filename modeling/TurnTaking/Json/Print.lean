import TurnTaking.Json.Basic
/-!
# Writing JSON texts

A value is written without blanks. In a quoted text the quote, the backslash and the control
characters are escaped and nothing else.
-/

namespace TurnTaking.Json

/-- A character of a quoted text. -/
def escape (c : Char) : List Char :=
  match c with
  | '"' => ['\\', '"']
  | '\\' => ['\\', '\\']
  | '\x08' => ['\\', 'b']
  | '\x0c' => ['\\', 'f']
  | '\n' => ['\\', 'n']
  | '\r' => ['\\', 'r']
  | '\t' => ['\\', 't']
  | c =>
    if c.toNat < 0x20 then
      ['\\', 'u', '0', '0', Nat.digitChar (c.toNat / 16), Nat.digitChar (c.toNat % 16)]
    else [c]

/-- A text between quotes. -/
def quoted (s : String) : List Char :=
  '"' :: s.toList.flatMap escape ++ ['"']

mutual

/-- A value as text. -/
def print : Json → List Char
  | null => "null".toList
  | bool b => if b then "true".toList else "false".toList
  | num n => n.text.toList
  | str s => quoted s
  | arr items => '[' :: printItems items ++ [']']
  | obj members => '\x7b' :: printMembers members ++ ['\x7d']
  | unreadable => "null".toList

/-- The items of an array, commas between them. -/
def printItems : List Json → List Char
  | [] => []
  | [v] => v.print
  | v :: vs => v.print ++ ',' :: printItems vs

/-- The members of an object, commas between them. -/
def printMembers : List (String × Json) → List Char
  | [] => []
  | [(key, v)] => quoted key ++ ':' :: v.print
  | (key, v) :: ms => quoted key ++ ':' :: v.print ++ ',' :: printMembers ms

end

/-- A value as text. -/
def text (v : Json) : String :=
  String.ofList v.print

end TurnTaking.Json
