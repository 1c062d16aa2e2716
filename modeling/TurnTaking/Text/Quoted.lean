import TurnTaking.Text.QuoteTable
/-!
# Quoted texts

How a text is shown inside a message: between double quotes, with everything that would not show
written as an escape. A mark that attaches to the character before it does not show on its own, so
it is escaped as well.
-/

namespace TurnTaking.Text

/-- The digits of a number in base sixteen, lower case. -/
def hexDigits (n : Nat) : List Char :=
  Nat.toDigits 16 n

/-- The escape that names a code point. -/
def codeEscape (c : Char) : List Char :=
  ['\\', 'u', '\x7b'] ++ hexDigits c.toNat ++ ['\x7d']

/-- A character as it is shown inside quotes. -/
def quoteChar (c : Char) : List Char :=
  match c with
  | '\x00' => ['\\', '0']
  | '\t' => ['\\', 't']
  | '\r' => ['\\', 'r']
  | '\n' => ['\\', 'n']
  | '\\' => ['\\', '\\']
  | '"' => ['\\', '"']
  | c =>
    if attachingRanges.has c || unprintableRanges.has c then codeEscape c else [c]

/-- A text as it is shown in a message. -/
def quote (s : String) : String :=
  String.ofList ('"' :: s.toList.flatMap quoteChar ++ ['"'])

end TurnTaking.Text
