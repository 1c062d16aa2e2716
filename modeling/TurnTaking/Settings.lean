import TurnTaking.Cues
import TurnTaking.Number.Numeral
import TurnTaking.Number.Shortest
import TurnTaking.Text.Quoted
/-!
# Settings

The settings of a conversation: its vocabulary, and the grace window after the agent's speech.
They are looked up by name. A word list is never at fault; a grace window must be a number of
seconds that a duration has room for.
-/

namespace TurnTaking

open Text Number Time

/-- The settings of a conversation. -/
structure Settings where
  vocabulary : Vocabulary
  grace : Duration
deriving DecidableEq

/-- Why settings are refused. -/
inductive SettingsError where
  /-- The text under a name is not a number. -/
  | notANumber (key text : String)
  /-- The number under a name is not a duration. -/
  | outOfRange (key : String) (value : Binary64)
deriving DecidableEq, Repr

/-- The text of a refusal. -/
def SettingsError.message : SettingsError → String
  | notANumber key text => key ++ ": " ++ quote text ++ " is not a number of seconds"
  | outOfRange key value =>
    key ++ ": " ++ value.plainText ++ " is not a finite, non-negative number of seconds"

/-- The duration that a text names in seconds; blanks at its ends are passed over. -/
def readSeconds (key text : String) : Except SettingsError Duration :=
  match Binary64.ofText? (trim text.toList) with
  | none => .error (.notANumber key text)
  | some value =>
    match Duration.ofSeconds? value with
    | none => .error (.outOfRange key value)
    | some d => .ok d

namespace Settings

/-- The name of the backchannels. -/
def backchannelsKey : String :=
  "IGNORE_WORDS"

/-- The name of the commands. -/
def commandsKey : String :=
  "INTERRUPT_WORDS"

/-- The name of the grace window. -/
def graceKey : String :=
  "OVERLAP_GRACE_SECONDS"

/-- The grace window that holds without a setting: two seconds. -/
def standardGrace : Duration :=
  .ofParts 2 0

/-- The settings without overrides. -/
def standard : Settings :=
  ⟨.standard, standardGrace⟩

/-- The grace window that a text names; the standard one for a text of blanks or none. -/
def readGrace (text : Option String) : Except SettingsError Duration :=
  match text with
  | some t => if (trim t.toList).isEmpty then .ok standardGrace else readSeconds graceKey t
  | none => .ok standardGrace

/-- The settings that a look-up by name gives. -/
def ofLookup (look : String → Option String) : Except SettingsError Settings := do
  let grace ← readGrace (look graceKey)
  return ⟨.ofOverrides (look backchannelsKey) (look commandsKey), grace⟩

/-- The settings with another grace window. -/
def withGrace (s : Settings) (grace : Duration) : Settings :=
  { s with grace }

end Settings

end TurnTaking
