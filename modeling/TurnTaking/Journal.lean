import TurnTaking.Event.Codec
import TurnTaking.Usage
/-!
# The journal

What a conversation makes known, in order: a record has a topic and a payload. The reports of
phase changes, of transcripts and of the final usage each have a topic of their own.
-/

namespace TurnTaking

/-- The payload of a record. -/
inductive Payload where
  | phaseChange (report : PhaseReport)
  | turn (report : TurnReport)
  | usage (usage : Usage)
  /-- A payload from elsewhere. -/
  | other (value : Json)

/-- A payload as a value. -/
def Payload.toJson (arrival : String) : Payload → Json
  | phaseChange report => report.toJson arrival
  | turn report => report.toJson
  | usage u => u.toJson
  | other value => value

/-- A record of the journal. -/
structure Record where
  topic : String
  payload : Payload

namespace Record

/-- The topic of phase changes. -/
def phaseTopic : String :=
  "agent:state_changed"

/-- The topic of decisions about transcripts. -/
def turnTopic : String :=
  "turn:decision"

/-- The topic of the final usage. -/
def usageTopic : String :=
  "session:usage"

/-- The record of a phase change. -/
def ofPhaseChange (report : PhaseReport) : Record :=
  ⟨phaseTopic, .phaseChange report⟩

/-- The record of a transcript. -/
def ofTurn (report : TurnReport) : Record :=
  ⟨turnTopic, .turn report⟩

/-- The record of the final usage. -/
def ofUsage (usage : Usage) : Record :=
  ⟨usageTopic, .usage usage⟩

/-- A record as a value. -/
def toJson (arrival : String) (r : Record) : Json :=
  .obj [("topic", .str r.topic), ("payload", r.payload.toJson arrival)]

end Record

/-- The records so far, oldest first. -/
structure Journal where
  records : List Record

namespace Journal

/-- The journal without records. -/
def empty : Journal :=
  ⟨[]⟩

/-- The journal with one more record. -/
def add (j : Journal) (r : Record) : Journal :=
  ⟨j.records ++ [r]⟩

/-- The journal with one more record if its payload can be written at all. -/
def addIf (j : Journal) (topic : String) (payload : Option Payload) : Journal :=
  match payload with
  | some p => j.add ⟨topic, p⟩
  | none => j

/-- The records of a topic. -/
def on (j : Journal) (topic : String) : List Record :=
  j.records.filter (·.topic == topic)

/-- The topics in order. -/
def topics (j : Journal) : List String :=
  j.records.map (·.topic)

end Journal

end TurnTaking
