import TurnTaking.Text.Case
import TurnTaking.Text.WordSet
/-!
# Word lists

A word list holds words in normal form: without blanks at their ends, in lower case, and not
empty. It is written as a text with commas between the words; an absent or empty text stands for
a default list. A vocabulary is two word lists: backchannels, by which a listener goes along, and
commands, by which a listener wants to be heard.

The main statements are `Wordlist.mem_ofFragments`, which says what a list holds, and
`Wordlist.ofOverride_of_isEmpty`, which says when the default is taken.
-/

namespace TurnTaking

open Text

/-- A word without blanks at its ends and in lower case. -/
def normalForm (w : Word) : Word :=
  lower (trim w)

/-- A list of words in normal form. -/
structure Wordlist where
  entries : WordSet
deriving DecidableEq

namespace Wordlist

/-- The list of the normal forms of some fragments; those of nothing but blanks are left out. -/
def ofFragments (fragments : List Word) : Wordlist :=
  ⟨.ofList ((fragments.map normalForm).filter (! ·.isEmpty))⟩

/-- The list that a text with commas writes; without a text, or with an empty one, the default. -/
def ofOverride (raw : Option String) (default : List String) : Wordlist :=
  match raw with
  | some text =>
    if text.isEmpty then ofFragments (default.map (·.toList))
    else ofFragments (splitWhere (· == ',') text.toList)
  | none => ofFragments (default.map (·.toList))

/-- Whether a word belongs to the list, as it stands or in normal form. -/
def recognises (l : Wordlist) (w : Word) : Bool :=
  l.entries.has w || l.entries.has (normalForm w)

/-- The number of words. -/
def size (l : Wordlist) : Nat :=
  l.entries.size

theorem mem_ofFragments {w : Word} {fragments : List Word} :
    w ∈ (ofFragments fragments).entries ↔ w ≠ [] ∧ ∃ f ∈ fragments, normalForm f = w := by
  simp only [ofFragments, WordSet.mem_ofList, List.mem_filter, List.mem_map]
  constructor
  · rintro ⟨hf, hne⟩
    exact ⟨by simpa using hne, hf⟩
  · rintro ⟨hne, hf⟩
    exact ⟨hf, by simpa using hne⟩

theorem ofOverride_of_isEmpty {text : String} (h : text.isEmpty = true) (default : List String) :
    ofOverride (some text) default = ofOverride none default := by
  simp [ofOverride, h]

end Wordlist

/-- The two word lists of a conversation. -/
structure Vocabulary where
  backchannels : Wordlist
  commands : Wordlist
deriving DecidableEq

namespace Vocabulary

/-- The backchannels that are known without an override. -/
def standardBackchannels : List String :=
  ["yeah", "ya", "ok", "okay", "hmm", "uh-huh", "uh", "mm", "right", "sure"]

/-- The commands that are known without an override. -/
def standardCommands : List String :=
  ["stop", "wait", "hold", "holdon", "hold-on", "pause", "cancel", "no"]

/-- The vocabulary with an override for each list. -/
def ofOverrides (backchannels commands : Option String) : Vocabulary where
  backchannels := .ofOverride backchannels standardBackchannels
  commands := .ofOverride commands standardCommands

/-- The vocabulary without overrides. -/
def standard : Vocabulary :=
  ofOverrides none none

end Vocabulary

end TurnTaking
