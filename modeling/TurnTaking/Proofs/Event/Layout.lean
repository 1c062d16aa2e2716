import TurnTaking.Event.Codec
import TurnTaking.Proofs.Json.Relaid
import TurnTaking.Proofs.Json.Written
/-!
# The layout of events

An event may be written in many ways: its fields in any order, with blanks between the tokens, with
more fields that no event has, and with values spelled out that count anyway when they are left out.
The same goes for the object of a measurement inside an event. None of this makes a difference to
what is read: the values under the names that an event knows stay alike, and a record is read from
those.

The main statement is `Event.readText_layout`.
-/

namespace TurnTaking

open Json Json.Fields

/-! ## Names and defaults -/

/-- The fields of a measurement that count as zero when they are left out. -/
def Metrics.defaults : List (String × Json) :=
  [("duration_ms", .nat 0), ("transcription_delay_ms", .nat 0)]

/-- The field of an event that counts as null when it is left out. -/
def Event.defaults : List (String × Json) :=
  [("speaker_id", .null)]

/-- The tags of events and measurements, and the names of the fields of every kind. -/
def Event.known : List String :=
  ["type", "kind"] ++ (PhaseChange.fields .held).names ++ Utterance.fields.names ++
    (Metrics.carrierFields .held).names ++
    MetricsKind.table.flatMap fun k => k.2.fields.names

/-! ## Measurements -/

namespace Metrics

theorem heeds_required (name : String) (h : name ∉ Metrics.defaults.map (·.1)) :
    (required name Reader.word).Heeds (SpelledOut Metrics.defaults) :=
  Heeds.same fun _ _ hu => hu.eq h

theorem heeds_optional (name : String)
    (h : ∀ v, (name, v) ∈ Metrics.defaults → Reader.word v = .ok 0) :
    (optional name Reader.word 0).Heeds (SpelledOut Metrics.defaults) :=
  Heeds.optional fun _ _ hu => hu.eq_or_reads h

theorem reads_default {name : String} {v : Json} (h : (name, v) ∈ Metrics.defaults) :
    Reader.word v = .ok 0 := by
  simp only [Metrics.defaults, List.mem_cons, Prod.mk.injEq, List.not_mem_nil, or_false] at h
  rcases h with ⟨-, rfl⟩ | ⟨-, rfl⟩
  · rfl
  · rfl

theorem heeds_fields (kind : MetricsKind) : kind.fields.Heeds (SpelledOut Metrics.defaults) := by
  cases kind with
  | llm =>
    have hprompt := heeds_required "prompt_tokens" (by decide)
    have hcompletion := heeds_required "completion_tokens" (by decide)
    have hduration := heeds_optional "duration_ms" fun _ => reads_default
    exact ((hprompt.map Metrics.llm).seq hcompletion).seq hduration
  | tts =>
    have hcharacters := heeds_required "characters" (by decide)
    have haudio := heeds_required "audio_duration_ms" (by decide)
    exact (hcharacters.map Metrics.tts).seq haudio
  | stt =>
    have haudio := heeds_required "audio_duration_ms" (by decide)
    exact haudio.map Metrics.stt
  | eou =>
    have hend := heeds_required "end_of_utterance_delay_ms" (by decide)
    have htranscription := heeds_optional "transcription_delay_ms" fun _ => reads_default
    exact (hend.map Metrics.eou).seq htranscription

/-- The layout of its object makes no difference to a measurement. -/
theorem readHeld_iff {level : Nat} {members members' : List (String × Json)}
    (h : Relaid Event.known Metrics.defaults level members members')
    (hkeys : (members.map (·.1)).Nodup) (source : Source) (m : Metrics) :
    Metrics.readHeld source (.obj members') = .ok m ↔
      Metrics.readHeld source (.obj members) = .ok m := by
  have hlike := h.likened hkeys (by decide)
  -- a tag has no default, so the same one is found
  have hknown : "kind" ∈ Event.known := by decide
  refine hlike.tagged_iff hknown (fun u u' hu => hu.eq (by decide)) ?_ m
  intro kind m
  have hnames : ∀ name ∈ kind.fields.names, name ∈ Event.known := by
    cases kind <;> decide
  have htag : "kind" ∉ kind.fields.names := by
    cases kind <;> decide
  exact hlike.read_without_tag_iff (heeds_fields kind) hnames htag kind.what .held m

end Metrics

/-! ## Events of a known kind -/

namespace Event

/-- Values under a name that are alike to an event: the same or with a default spelled out, or
measurements that are read alike. -/
inductive Alike (name : String) : Option Json → Option Json → Prop
  | spelledOut {u u' : Option Json} (h : SpelledOut Event.defaults name u u') : Alike name u u'
  | metrics {v v' : Json} (hname : name = "metrics")
      (h : ∀ m, Metrics.readHeld .held v' = .ok m ↔ Metrics.readHeld .held v = .ok m) :
      Alike name (some v) (some v')

theorem Alike.eq {name : String} (hname : name ∉ Event.defaults.map (·.1))
    (hmetrics : name ≠ "metrics") {u u' : Option Json} (h : Alike name u u') : u' = u := by
  cases h with
  | spelledOut h => exact h.eq hname
  | metrics h => exact absurd h hmetrics

theorem heeds_field {α : Type} {name : String} {read : Reader α} {absent : Except Misfit α}
    (hname : name ∉ Event.defaults.map (·.1)) (hmetrics : name ≠ "metrics") :
    (field name read absent).Heeds Alike :=
  Heeds.same fun _ _ hu => hu.eq hname hmetrics

theorem heeds_phaseChange : (PhaseChange.fields .held).Heeds Alike := by
  have hold : (required "old_state" (Phase.read .held)).Heeds Alike :=
    heeds_field (by decide) (by decide)
  have hnew : (required "new_state" (Phase.read .held)).Heeds Alike :=
    heeds_field (by decide) (by decide)
  have hcreated : (optional "created_at" CreatedAt.read .onArrival).Heeds Alike :=
    heeds_field (by decide) (by decide)
  exact ((hold.map PhaseChange.mk).seq hnew).seq hcreated

/-- A speaker who is null is not known, like one who is left out. -/
theorem heeds_speaker :
    (optional "speaker_id" (Reader.nullable Reader.string) none).Heeds Alike := by
  apply Heeds.optional
  intro u u' hu
  cases hu with
  | spelledOut h =>
    apply h.eq_or_reads
    intro v hv
    simp only [Event.defaults, List.mem_singleton, Prod.mk.injEq, true_and] at hv
    rw [hv]
    rfl
  | metrics hname _ => exact absurd hname (by decide)

theorem heeds_utterance : Utterance.fields.Heeds Alike := by
  have htranscript : (required "transcript" Reader.string).Heeds Alike :=
    heeds_field (by decide) (by decide)
  have hfinal : (required "is_final" Reader.boolean).Heeds Alike :=
    heeds_field (by decide) (by decide)
  have hcreated : (optional "created_at" CreatedAt.read .onArrival).Heeds Alike :=
    heeds_field (by decide) (by decide)
  exact (((htranscript.map Utterance.mk).seq hfinal).seq heeds_speaker).seq hcreated

theorem heeds_metrics : (Metrics.carrierFields .held).Heeds Alike := by
  apply Heeds.field
  intro u u' hu m
  cases hu with
  | spelledOut h =>
    have heq := h.eq (by decide)
    rw [heq]
  | metrics _ h => exact h m

variable {members members' : List (String × Json)}

/-- The record of a kind is read alike from like values. -/
theorem readKind_iff (h : Likened Event.known Alike members members') (kind : EventKind)
    (e : Event) :
    Event.readKind kind (.obj (members'.filter (·.1 != "type"))) = .ok e ↔
      Event.readKind kind (.obj (members.filter (·.1 != "type"))) = .ok e := by
  cases kind with
  | phaseChange =>
    have hread : ∀ c, PhaseChange.read .held (.obj (members'.filter (·.1 != "type"))) = .ok c ↔
        PhaseChange.read .held (.obj (members.filter (·.1 != "type"))) = .ok c :=
      h.read_without_tag_iff heeds_phaseChange (by decide) (by decide) _ _
    simp only [Event.readKind, map_eq_ok_iff, hread]
  | utterance =>
    have hread : ∀ u, Utterance.read .held (.obj (members'.filter (·.1 != "type"))) = .ok u ↔
        Utterance.read .held (.obj (members.filter (·.1 != "type"))) = .ok u :=
      h.read_without_tag_iff heeds_utterance (by decide) (by decide) _ _
    simp only [Event.readKind, map_eq_ok_iff, hread]
  | metrics =>
    have hread : ∀ m, Metrics.readCarrier .held (.obj (members'.filter (·.1 != "type"))) = .ok m ↔
        Metrics.readCarrier .held (.obj (members.filter (·.1 != "type"))) = .ok m :=
      h.read_without_tag_iff heeds_metrics (by decide) (by decide) _ _
    simp only [Event.readKind, map_eq_ok_iff, hread]

/-- An event is read alike from like values if both objects can be read as a whole. -/
theorem read_iff (h : Likened Event.known Alike members members')
    (hwhole : (Json.obj members').readableAt 0 = true ↔ (Json.obj members).readableAt 0 = true)
    (e : Event) : Event.read 0 (.obj members') = .ok e ↔ Event.read 0 (.obj members) = .ok e := by
  have hknown : "type" ∈ Event.known := by decide
  have hsame : ∀ u u', Alike "type" u u' → u' = u := fun _ _ hu =>
    hu.eq (by decide) (by decide)
  rw [Event.read, heldBack_eq_ok_iff, heldBack_eq_ok_iff]
  exact and_congr hwhole (h.tagged_iff hknown hsame (readKind_iff h) e)

/-! ## Events in another layout -/

/-- A field of an event, and the same field or the object of a measurement in another layout. -/
inductive RelaidMember : String × Json → String × Json → Prop
  | same (m : String × Json) : RelaidMember m m
  | metrics {inner inner' : List (String × Json)}
      (h : Json.Relaid Event.known Metrics.defaults 2 inner inner') :
      RelaidMember ("metrics", .obj inner) ("metrics", .obj inner')

/-- The fields of an event in another layout, and with them the object of a measurement. -/
def Relaid (members members' : List (String × Json)) : Prop :=
  ∃ between, List.Forall₂ RelaidMember members between ∧
    Json.Relaid Event.known Event.defaults 1 between members'

/-- No key comes twice in an event, nor in the object of a measurement. -/
structure DistinctKeys (members : List (String × Json)) : Prop where
  event : (members.map (·.1)).Nodup
  metrics : ∀ inner, ("metrics", Json.obj inner) ∈ members → (inner.map (·.1)).Nodup

theorem DistinctKeys.of_cons {m : String × Json} (h : DistinctKeys (m :: members)) :
    DistinctKeys members where
  event := (List.nodup_cons.1 h.event).2
  metrics inner hinner := h.metrics inner (List.mem_cons_of_mem m hinner)

theorem keys_of_forall₂ (h : List.Forall₂ RelaidMember members members') :
    members'.map (·.1) = members.map (·.1) := by
  induction h with
  | nil => rfl
  | cons hm _ ih =>
    rw [List.map_cons, List.map_cons, ih]
    cases hm <;> rfl

theorem readableAt_of_relaidMember {m m' : String × Json} (h : RelaidMember m m') :
    m'.2.readableAt 1 = true ↔ m.2.readableAt 1 = true := by
  cases h with
  | same => rfl
  | metrics h => exact h.readableAt_iff (by decide)

theorem lookup_of_forall₂ (h : List.Forall₂ RelaidMember members members')
    (hkeys : DistinctKeys members) (name : String) :
    Alike name (lookup members name) (lookup members' name) := by
  induction h with
  | nil => exact Alike.spelledOut (SpelledOut.same none)
  | @cons m m' ms ms' hm _ ih =>
    have hrest := ih hkeys.of_cons
    cases hm with
    | same =>
      by_cases hname : m.1 = name
      · subst hname
        rw [lookup_cons_self, lookup_cons_self]
        exact Alike.spelledOut (SpelledOut.same _)
      · rw [lookup_cons_of_ne hname, lookup_cons_of_ne hname]
        exact hrest
    | @metrics inner inner' h =>
      by_cases hname : "metrics" = name
      · subst hname
        rw [lookup_cons_self, lookup_cons_self]
        have hinner := hkeys.metrics inner List.mem_cons_self
        exact Alike.metrics rfl (Metrics.readHeld_iff h hinner .held)
      · rw [lookup_cons_of_ne hname, lookup_cons_of_ne hname]
        exact hrest

theorem likened_of_forall₂ (h : List.Forall₂ RelaidMember members members')
    (hkeys : DistinctKeys members) : Likened Event.known Alike members members' where
  once := once_of_nodup _ hkeys.event
  once' := by
    apply once_of_nodup
    rw [keys_of_forall₂ h]
    exact hkeys.event
  lookup name _ := lookup_of_forall₂ h hkeys name

theorem readableAt_of_forall₂ (h : List.Forall₂ RelaidMember members members') :
    (Json.obj members').readableAt 0 = true ↔ (Json.obj members).readableAt 0 = true := by
  have hmembers : (∀ m ∈ members', m.2.readableAt 1 = true) ↔
      ∀ m ∈ members, m.2.readableAt 1 = true := by
    induction h with
    | nil => simp
    | cons hm _ ih =>
      rw [List.forall_mem_cons, List.forall_mem_cons, readableAt_of_relaidMember hm, ih]
  rw [readableAt_obj_iff, readableAt_obj_iff]
  exact and_congr_right fun _ => hmembers

/-- The layout of an event makes no difference to what it is read as. -/
theorem read_relaid_iff (h : Relaid members members') (hkeys : DistinctKeys members) (e : Event) :
    Event.read 0 (.obj members') = .ok e ↔ Event.read 0 (.obj members) = .ok e := by
  rcases h with ⟨between, hbetween, hrelaid⟩
  have hkeys' : (between.map (·.1)).Nodup := by
    rw [keys_of_forall₂ hbetween]
    exact hkeys.event
  have hlike := hrelaid.likened hkeys' (by decide)
  -- first the fields around the measurement, then its own
  calc Event.read 0 (.obj members') = .ok e
      ↔ Event.read 0 (.obj between) = .ok e :=
        read_iff (hlike.mono fun _ _ _ hu => Alike.spelledOut hu)
          (hrelaid.readableAt_iff (by decide)) e
    _ ↔ Event.read 0 (.obj members) = .ok e :=
        read_iff (likened_of_forall₂ hbetween hkeys) (readableAt_of_forall₂ hbetween) e

/-! ## Texts -/

/-- Texts of the same event in two layouts are read alike. -/
theorem readText_relaid_iff {text text' : List Char} (htext : ofText? text = some (.obj members))
    (hkeys : DistinctKeys members) (htext' : ofText? text' = some (.obj members'))
    (h : Relaid members members') (e : Event) :
    readText (Event.read 0) text' = .ok e ↔ readText (Event.read 0) text = .ok e := by
  rw [readText_eq_ok_iff, readText_eq_ok_iff, htext, htext']
  simp only [Option.some.injEq, exists_eq_left']
  exact read_relaid_iff h hkeys e

/-- Decoding an event does not depend on its layout: neither on the blanks between the tokens of the
text nor on the order of the fields, on added fields with other names, or on whether defaults are
spelled out, in the event and in the object of a measurement. A text that spells fields between
braces is the text of these fields in their order. -/
theorem readText_layout {text : List Char} (htext : ofText? text = some (.obj members))
    (hkeys : DistinctKeys members) :
    (∃ ls, Spells ls text) ∧
    (∀ ls text', Spells ls text → Spells ls text' →
      readText (Event.read 0) text' = readText (Event.read 0) text) ∧
    (∀ text' members', ofText? text' = some (.obj members') → Relaid members members' →
      ∀ e, readText (Event.read 0) text' = .ok e ↔ readText (Event.read 0) text = .ok e) ∧
    (∀ fields text', Spells (objectSpelled fields) text' →
      Relaid members (fields.map SpelledField.member) →
      ∀ e, readText (Event.read 0) text' = .ok e ↔ readText (Event.read 0) text = .ok e) := by
  refine ⟨?_, ?_, ?_, ?_⟩
  · rcases Option.bind_eq_some_iff.1 htext with ⟨ts, hts, -⟩
    exact exists_spells hts
  · intro ls text' hls hls'
    rw [readText, readText, ofText?_of_spells hls hls']
  · intro text' members' htext' h e
    exact readText_relaid_iff htext hkeys htext' h e
  · intro fields text' hfields h e
    exact readText_relaid_iff htext hkeys (ofText?_object hfields) h e

set_option maxRecDepth 1000 in
/-- A measurement with both tags at the end, blanks, fields that no event has and the defaults
spelled out. -/
theorem readText_layout_tags_last :
    let inner := [("kind", Json.str "eou"), ("end_of_utterance_delay_ms", .nat 3)]
    let members := [("type", Json.str "metrics_collected"), ("metrics", .obj inner)]
    let text := "\x7b\"type\":\"metrics_collected\",\"metrics\":\x7b".toList ++
      "\"kind\":\"eou\",\"end_of_utterance_delay_ms\":3\x7d\x7d".toList
    let text' := "\x7b \"note\": [1], \"speaker_id\": null, \"metrics\": ".toList ++
      "\x7b\"kinds\": 2, \"transcription_delay_ms\": 0, ".toList ++
      "\"end_of_utterance_delay_ms\": 3, \"kind\": \"eou\"\x7d, ".toList ++
      "\n\"type\": \"metrics_collected\" \x7d".toList
    ofText? text = some (.obj members) ∧ DistinctKeys members ∧
      readText (Event.read 0) text = .ok (.metrics (.eou 3 0)) ∧
      readText (Event.read 0) text' = .ok (.metrics (.eou 3 0)) := by
  intro inner members text text'
  -- the texts are spelled out as characters before they are read
  have htext : ofText? text = some (.obj members) := by
    simp only [text, String.reduceToList]
    rfl
  have hkeys : DistinctKeys members := by
    constructor
    · decide
    · intro other hother
      have heq : other = inner := by simpa [members] using hother
      rw [heq]
      decide
  have hread : readText (Event.read 0) text = .ok (.metrics (.eou 3 0)) := by
    simp only [text, String.reduceToList]
    decide +kernel
  -- the fields of the other text from behind
  let inner' := (inner ++ [("transcription_delay_ms", Json.nat 0)] ++
    [("kinds", Json.nat 2)]).reverse
  let between := [("type", Json.str "metrics_collected"), ("metrics", .obj inner')]
  let members' := (between ++ [("speaker_id", Json.null)] ++
    [("note", Json.arr [.nat 1])]).reverse
  have htext' : ofText? text' = some (.obj members') := by
    simp only [text', String.reduceToList]
    rfl
  have hinner : Json.Relaid Event.known Metrics.defaults 2 inner inner' := by
    refine ⟨[("transcription_delay_ms", .nat 0)], [("kinds", .nat 2)], by simp [Metrics.defaults],
      ?_, ?_, List.reverse_perm _⟩
    · intro m hm
      rw [List.mem_singleton.1 hm]
      decide
    · intro m hm
      rw [List.mem_singleton.1 hm]
      decide
  have houter : Json.Relaid Event.known Event.defaults 1 between members' := by
    refine ⟨[("speaker_id", .null)], [("note", .arr [.nat 1])], List.Sublist.refl _, ?_, ?_,
      List.reverse_perm _⟩
    · intro m hm
      rw [List.mem_singleton.1 hm]
      decide
    · intro m hm
      rw [List.mem_singleton.1 hm]
      decide
  have hrelaid : Relaid members members' :=
    ⟨between, .cons (.same _) (.cons (.metrics hinner) .nil), houter⟩
  exact ⟨htext, hkeys, hread,
    ((readText_layout htext hkeys).2.2.1 text' members' htext' hrelaid _).2 hread⟩

end Event

end TurnTaking
