import TurnTaking.Floor
import TurnTaking.Wordlist
/-!
# Cues in a transcript

The words of a transcript are its runs without blanks, punctuation taken off their ends. The cues
of a transcript say whether one of its words is a backchannel, whether one is a command, and
whether it overlaps the agent's speech.
-/

namespace TurnTaking

open Text Time

/-- The punctuation that may stand at the ends of a word. -/
def punctuation : List Char :=
  ['.', ',', '!', '?', ';', ':']

/-- Whether a character is punctuation. -/
def isPunctuation (c : Char) : Bool :=
  punctuation.contains c

/-- The words of a text, in order, each as often as it is said. -/
def spokenWords (text : List Char) : List Word :=
  ((words text).map (strip isPunctuation)).filter (! ·.isEmpty)

/-- The set of the words of a text. -/
def wordsOf (text : List Char) : WordSet :=
  .ofList (spokenWords text)

/-- What a transcript tells. -/
structure Cues where
  backchannel : Bool
  command : Bool
  overlapping : Bool
deriving DecidableEq, Repr

namespace Cues

/-- A transcript as it is looked at: without blanks at its ends, in lower case. -/
def heard (transcript : String) : List Char :=
  normalForm transcript.toList

/-- The cues of a transcript that comes now; none of one without anything but blanks. -/
def ofTranscript (transcript : String) (floor : Floor) (now : Instant) (grace : Duration)
    (vocabulary : Vocabulary) : Option Cues :=
  let text := heard transcript
  if text.isEmpty then none
  else
    let said := wordsOf text
    some
      { backchannel := said.words.any vocabulary.backchannels.recognises
        command := said.words.any vocabulary.commands.recognises
        overlapping := floor.overlaps now grace }

end Cues

end TurnTaking
