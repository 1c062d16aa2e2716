import TurnTaking.Event.Codec
import TurnTaking.Proofs.Json.Records
import TurnTaking.Proofs.Json.RoundTrip
import TurnTaking.Proofs.Time.StampText
/-!
# Reading written events back

An event is written as a record with its tag in front and read by its tag first. What is written
of a part fits the field it is read for, so the record is the same; only the time of creation of
an event that was created on arrival is the written one afterwards.

The main statement is `Event.readText_print`: every event is read back from its text, and an
event that has been read and whose time of creation was given is read again as the same event.
-/

namespace TurnTaking

open Json Json.Fields Time

/-! ## Times of creation -/

/-- The time of creation when things created on arrival count as created at `now`. -/
def CreatedAt.arrivedAt (now : Stamp) : CreatedAt → CreatedAt
  | stamped stamp => stamped stamp
  | onArrival => stamped now

theorem CreatedAt.read_text (now : Stamp) (c : CreatedAt) :
    CreatedAt.read (.str (c.text (String.ofList now.text))) = .ok (c.arrivedAt now) := by
  have hstamp (s : Stamp) : CreatedAt.read (.str (String.ofList s.text)) = .ok (.stamped s) := by
    simp only [CreatedAt.read, Reader.stamp, String.toList_ofList, Stamp.ofText_text]
    rfl
  cases c with
  | stamped s => exact hstamp s
  | onArrival => exact hstamp now

/-! ## Phase changes and transcripts -/

theorem Phase.read_toJson (source : Source) (p : Phase) : Phase.read source p.toJson = .ok p := by
  cases p <;> rfl

/-- The phase change when things created on arrival count as created at `now`. -/
def PhaseChange.arrivedAt (now : Stamp) (e : PhaseChange) : PhaseChange :=
  { e with createdAt := e.createdAt.arrivedAt now }

theorem PhaseChange.read_members (now : Stamp) (source : Source) (e : PhaseChange) :
    PhaseChange.read source (.obj (e.members (String.ofList now.text)))
      = .ok (e.arrivedAt now) := by
  apply read_object
  · simp [PhaseChange.members]
  · have hold : (required "old_state" (Phase.read source)).Reads
        (lookup (e.members (String.ofList now.text))) e.old :=
      Reads.required rfl (Phase.read_toJson source e.old)
    have hnew : (required "new_state" (Phase.read source)).Reads
        (lookup (e.members (String.ofList now.text))) e.new :=
      Reads.required rfl (Phase.read_toJson source e.new)
    have hcreated : (optional "created_at" CreatedAt.read .onArrival).Reads
        (lookup (e.members (String.ofList now.text))) (e.createdAt.arrivedAt now) :=
      Reads.optional rfl (CreatedAt.read_text now e.createdAt)
    exact ((hold.map PhaseChange.mk).seq hnew).seq hcreated

/-- The transcript when things created on arrival count as created at `now`. -/
def Utterance.arrivedAt (now : Stamp) (e : Utterance) : Utterance :=
  { e with createdAt := e.createdAt.arrivedAt now }

/-- A speaker who is not known is left out, and who has been left out is not known. -/
theorem Utterance.reads_speaker (arrival : String) (e : Utterance) :
    (optional "speaker_id" (Reader.nullable Reader.string) none).Reads
      (lookup (e.members arrival)) e.speaker := by
  rcases e with ⟨transcript, isFinal, speaker | speaker, createdAt⟩
  · exact Reads.absent rfl
  · exact Reads.optional rfl rfl

theorem Utterance.read_members (now : Stamp) (source : Source) (e : Utterance) :
    Utterance.read source (.obj (e.members (String.ofList now.text))) = .ok (e.arrivedAt now) := by
  apply read_object
  · rcases e with ⟨transcript, isFinal, speaker | speaker, createdAt⟩ <;> simp [Utterance.members]
  · have htranscript : (required "transcript" Reader.string).Reads
        (lookup (e.members (String.ofList now.text))) e.transcript :=
      Reads.required rfl rfl
    have hfinal : (required "is_final" Reader.boolean).Reads
        (lookup (e.members (String.ofList now.text))) e.isFinal :=
      Reads.required rfl rfl
    have hcreated : (optional "created_at" CreatedAt.read .onArrival).Reads
        (lookup (e.members (String.ofList now.text))) (e.createdAt.arrivedAt now) := by
      rcases e with ⟨transcript, isFinal, speaker | speaker, createdAt⟩
      · exact Reads.optional rfl (CreatedAt.read_text now createdAt)
      · exact Reads.optional rfl (CreatedAt.read_text now createdAt)
    exact (((htranscript.map Utterance.mk).seq hfinal).seq (e.reads_speaker _)).seq hcreated

/-! ## Measurements -/

/-- The kind of a measurement comes first, and the rest of the record is read by it. -/
theorem Metrics.readHeld_object {label : String} {kind : MetricsKind}
    {members : List (String × Json)} {m : Metrics} (source : Source)
    (hkind : choose MetricsKind.table label = .ok kind)
    (hkeys : ("kind" :: members.map (·.1)).Nodup)
    (hreads : kind.fields.Reads (lookup members) m) :
    Metrics.readHeld source (.obj (("kind", .str label) :: members)) = .ok m := by
  obtain ⟨htag, hkeys⟩ := List.nodup_cons.mp hkeys
  rw [Metrics.readHeld, tagged_object hkind htag]
  exact read_object hkeys hreads kind.what .held

theorem Metrics.readHeld_toJson (source : Source) (m : Metrics) :
    Metrics.readHeld source m.toJson = .ok m := by
  cases m with
  | llm promptTokens completionTokens durationMs =>
    have hkind : choose MetricsKind.table "llm" = .ok .llm := rfl
    apply Metrics.readHeld_object source hkind
    case hkeys => simp
    exact (((Reads.required rfl (Reader.word_nat promptTokens)).map Metrics.llm).seq
      (Reads.required rfl (Reader.word_nat completionTokens))).seq
      (Reads.optional rfl (Reader.word_nat durationMs))
  | tts characters audioDurationMs =>
    have hkind : choose MetricsKind.table "tts" = .ok .tts := rfl
    apply Metrics.readHeld_object source hkind
    case hkeys => simp
    exact ((Reads.required rfl (Reader.word_nat characters)).map Metrics.tts).seq
      (Reads.required rfl (Reader.word_nat audioDurationMs))
  | stt audioDurationMs =>
    have hkind : choose MetricsKind.table "stt" = .ok .stt := rfl
    apply Metrics.readHeld_object source hkind
    case hkeys => simp
    exact (Reads.required rfl (Reader.word_nat audioDurationMs)).map Metrics.stt
  | eou endOfUtteranceDelayMs transcriptionDelayMs =>
    have hkind : choose MetricsKind.table "eou" = .ok .eou := rfl
    apply Metrics.readHeld_object source hkind
    case hkeys => simp
    exact ((Reads.required rfl (Reader.word_nat endOfUtteranceDelayMs)).map Metrics.eou).seq
      (Reads.optional rfl (Reader.word_nat transcriptionDelayMs))

theorem Metrics.readCarrier_members (m : Metrics) :
    Metrics.readCarrier .held (.obj m.members) = .ok m := by
  apply read_object
  · simp [Metrics.members]
  · exact Reads.required rfl (Metrics.readHeld_toJson .held m)

/-! ## Events -/

namespace Event

/-- The time of creation of an event; a measurement has none. -/
def createdAt? : Event → Option CreatedAt
  | phaseChange e => some e.createdAt
  | utterance e => some e.createdAt
  | metrics _ => none

/-- Whether it does not depend on its arrival when an event was created. -/
def IsDated (e : Event) : Prop :=
  e.createdAt? ≠ some .onArrival

instance (e : Event) : Decidable e.IsDated :=
  inferInstanceAs (Decidable (e.createdAt? ≠ some .onArrival))

/-- The event when things created on arrival count as created at `now`. -/
def arrivedAt (now : Stamp) : Event → Event
  | phaseChange e => phaseChange (e.arrivedAt now)
  | utterance e => utterance (e.arrivedAt now)
  | metrics m => metrics m

theorem readKind_members (now : Stamp) (e : Event) :
    Event.readKind e.kind (.obj (e.members (String.ofList now.text))) = .ok (e.arrivedAt now) := by
  cases e with
  | phaseChange e =>
    show (PhaseChange.read .held (.obj (e.members _))).map phaseChange = _
    rw [PhaseChange.read_members]
    rfl
  | utterance e =>
    show (Utterance.read .held (.obj (e.members _))).map utterance = _
    rw [Utterance.read_members]
    rfl
  | metrics m =>
    show (Metrics.readCarrier .held (.obj m.members)).map metrics = _
    rw [Metrics.readCarrier_members]
    rfl

theorem choose_kind (e : Event) : choose EventKind.table e.kind.label = .ok e.kind := by
  cases e.kind <;> rfl

theorem type_not_mem (arrival : String) (e : Event) :
    "type" ∉ (e.members arrival).map (·.1) := by
  rcases e with ⟨old, new, createdAt⟩ | ⟨transcript, isFinal, speaker | speaker, createdAt⟩ | m
  all_goals
    simp [members, PhaseChange.members, Utterance.members, Metrics.members]

/-- A written event is whole, and sound to a depth of two. -/
theorem readableAt_toJson (arrival : String) (e : Event) :
    (e.toJson arrival).readableAt 0 = true := by
  rcases e with ⟨old, new, createdAt⟩ | ⟨transcript, isFinal, speaker | speaker, createdAt⟩ | m
  case metrics => cases m <;> rfl
  all_goals rfl

theorem whole_toJson (arrival : String) (e : Event) : (e.toJson arrival).whole = true := by
  rcases e with ⟨old, new, createdAt⟩ | ⟨transcript, isFinal, speaker | speaker, createdAt⟩ | m
  case metrics => cases m <;> rfl
  all_goals rfl

theorem read_toJson (now : Stamp) (e : Event) :
    Event.read 0 (e.toJson (String.ofList now.text)) = .ok (e.arrivedAt now) := by
  rw [Event.read, heldBack, if_pos (readableAt_toJson _ e)]
  rw [Event.toJson, EventKind.toJson, tagged_object (choose_kind e) (type_not_mem _ e)]
  exact readKind_members now e

theorem readText_print_arrival (now : Stamp) (e : Event) :
    readText (Event.read 0) (e.toJson (String.ofList now.text)).print = .ok (e.arrivedAt now) := by
  rw [readText, ofText?_print (whole_toJson _ e)]
  simp only [read_toJson]

/-! ### Events whose time of creation is given -/

theorem arrivedAt_of_isDated (now : Stamp) {e : Event} (h : e.IsDated) : e.arrivedAt now = e := by
  rcases e with ⟨old, new, createdAt⟩ | ⟨transcript, isFinal, speaker, createdAt⟩ | m
  case metrics => rfl
  all_goals
    cases createdAt with
    | stamped s => rfl
    | onArrival => exact absurd rfl h

theorem toJson_of_isDated {e : Event} (h : e.IsDated) (arrival other : String) :
    e.toJson arrival = e.toJson other := by
  rcases e with ⟨old, new, createdAt⟩ | ⟨transcript, isFinal, speaker, createdAt⟩ | m
  case metrics => rfl
  all_goals
    cases createdAt with
    | stamped s => rfl
    | onArrival => exact absurd rfl h

/-! ### Reading back -/

/-- Every event is read back from its text, and reading, writing and reading again an event whose
time of creation is given is the same as reading it once. -/
theorem readText_print (now : Stamp) (arrival : String) (e : Event) (cs : List Char) :
    readText (Event.read 0) (e.toJson (String.ofList now.text)).print = .ok (e.arrivedAt now) ∧
      (e.IsDated → readText (Event.read 0) (e.toJson arrival).print = .ok e) ∧
      (readText (Event.read 0) cs = .ok e → e.IsDated →
        readText (Event.read 0) (e.toJson arrival).print = readText (Event.read 0) cs) := by
  have hdated : e.IsDated → readText (Event.read 0) (e.toJson arrival).print = .ok e := by
    intro h
    rw [toJson_of_isDated h arrival (String.ofList now.text), readText_print_arrival,
      arrivedAt_of_isDated now h]
  refine ⟨readText_print_arrival now e, hdated, ?_⟩
  intro hread h
  rw [hread]
  exact hdated h

/-- A leap second before the common era, a control character and a nameless speaker. -/
theorem readText_print_leap_second :
    let e : Event := .utterance ⟨"a \"b\"\u0001", true, some "",
      .stamped ⟨⟨-7, 2, 28, by decide⟩, 86399, 1500000000, by decide⟩⟩
    let cs := ("\x7b \"created_at\": \" -0007-03-01 00:29:60.5+00:30\", \"is_final\": true, " ++
      "\"speaker_id\": \"\", \"type\": \"user_input_transcribed\", " ++
      "\"transcript\": \"a \\u0022b\\\"\\u0001\" \x7d").toList
    readText (Event.read 0) cs = .ok e ∧ e.IsDated ∧
      readText (Event.read 0) (e.toJson "").print = readText (Event.read 0) cs := by
  intro e cs
  have hread : readText (Event.read 0) cs = .ok e := by
    -- the pieces of the text are taken apart before they are read: joining them as strings
    -- would be done byte by byte
    simp only [cs, String.toList_append, String.reduceToList]
    decide +kernel
  have hdated : e.IsDated := by decide
  have now : Stamp := ⟨⟨2024, 1, 1, by decide⟩, 0, 0, by decide⟩
  exact ⟨hread, hdated, (readText_print now "" e cs).2.2 hread hdated⟩

end Event

end TurnTaking
