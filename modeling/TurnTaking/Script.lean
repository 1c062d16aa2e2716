import TurnTaking.Event.Codec
import TurnTaking.Text.Blank
/-!
# Scripts

A script tells what a conversation hears and when: one entry a line, with the milliseconds since
the start and the event. Blank lines and lines that start with a number sign are passed over. The
times must not go back.
-/

namespace TurnTaking

open Json Text

/-- An entry of a script. -/
structure ScriptEntry where
  atMs : UInt64
  event : Event
deriving DecidableEq

/-- The fields of an entry. -/
def ScriptEntry.fields : Fields ScriptEntry :=
  ScriptEntry.mk <$> .required "at_ms" Reader.word <*> .required "event" (Event.read 1)

/-- Reads an entry. -/
def ScriptEntry.read : Reader ScriptEntry :=
  ScriptEntry.fields.read "struct ScriptLine" .text

/-- Why a text is not a script, with the number of the line. -/
inductive ScriptError where
  | badEntry (line : Nat) (fault : TextFault)
  | backwards (line : Nat) (atMs previous : UInt64)
deriving DecidableEq, Repr

/-- The text of a script's fault. -/
def ScriptError.message : ScriptError → String
  | badEntry line _ =>
    "line " ++ String.ofList (Nat.toDigits 10 line) ++ ": invalid script entry"
  | backwards line atMs previous =>
    "line " ++ String.ofList (Nat.toDigits 10 line) ++ ": at_ms " ++
      String.ofList (Nat.toDigits 10 atMs.toNat) ++ " goes back in time (previous " ++
      String.ofList (Nat.toDigits 10 previous.toNat) ++ ")"

namespace Script

/-- Whether a line without blanks at its ends holds an entry. -/
def isEntry (line : List Char) : Bool :=
  match line with
  | [] => false
  | c :: _ => c != '#'

/-- The entries of lines that are numbered from `number` on and follow an entry of the time
`previous`. -/
def ofLines (number : Nat) (previous : UInt64) :
    List (List Char) → Except ScriptError (List ScriptEntry)
  | [] => .ok []
  | raw :: rest =>
    let line := trim raw
    if isEntry line then
      match readText ScriptEntry.read line with
      | .error fault => .error (.badEntry number fault)
      | .ok entry =>
        if entry.atMs < previous then .error (.backwards number entry.atMs previous)
        else (ofLines (number + 1) entry.atMs rest).map (entry :: ·)
    else ofLines (number + 1) previous rest

/-- The entries of a script. -/
def ofText (text : String) : Except ScriptError (List ScriptEntry) :=
  ofLines 1 0 (lines text.toList)

end Script

end TurnTaking
