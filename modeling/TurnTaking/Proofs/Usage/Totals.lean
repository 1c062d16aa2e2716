import Mathlib.Algebra.BigOperators.Group.List.Basic
import Mathlib.Algebra.GroupWithZero.Nat
import Mathlib.Data.List.Induction
import TurnTaking.Event.Codec
import TurnTaking.Usage
/-!
# What the totals add up to

A total stops at the greatest word, at whatever point of a run it reaches it. Nevertheless it does
not tell where that happened: it is the exact sum of what was added to it, or the greatest word if
the sum is greater. The eight totals are looked at one by one, by name (`Usage.get`), and each
measurement adds a known amount to each of them (`Total.amount`).

The main statement is `collectAll_totals`. The exact sum is shown for one more measurement
(`toNat_get_collect`) and from that for a list of them (`toNat_get_collectAll`); the order of the
measurements and the place where a list is cut are of no account to a sum.
-/

namespace TurnTaking

/-- The kind of a measurement. -/
def Metrics.kind : Metrics → MetricsKind
  | llm .. => .llm
  | tts .. => .tts
  | stt .. => .stt
  | eou .. => .eou

/-- The totals by name. -/
inductive Total where
  | llmPromptTokens
  | llmCompletionTokens
  | llmDurationMs
  | ttsCharacters
  | ttsAudioDurationMs
  | sttAudioDurationMs
  | eouCount
  | eouDelayTotalMs
deriving DecidableEq, Repr

namespace Total

/-- The kind of the measurements that a total is about. -/
def kind : Total → MetricsKind
  | llmPromptTokens | llmCompletionTokens | llmDurationMs => .llm
  | ttsCharacters | ttsAudioDurationMs => .tts
  | sttAudioDurationMs => .stt
  | eouCount | eouDelayTotalMs => .eou

/-- What a measurement adds to a total of its kind: one of its fields, or one to a count; nothing
to a total of another kind. -/
def amount : Total → Metrics → Nat
  | llmPromptTokens, .llm promptTokens _ _ => promptTokens.toNat
  | llmCompletionTokens, .llm _ completionTokens _ => completionTokens.toNat
  | llmDurationMs, .llm _ _ durationMs => durationMs.toNat
  | ttsCharacters, .tts characters _ => characters.toNat
  | ttsAudioDurationMs, .tts _ audioDurationMs => audioDurationMs.toNat
  | sttAudioDurationMs, .stt audioDurationMs => audioDurationMs.toNat
  | eouCount, .eou _ _ => 1
  | eouDelayTotalMs, .eou endOfUtteranceDelayMs _ => endOfUtteranceDelayMs.toNat
  | _, _ => 0

theorem amount_of_ne {t : Total} {m : Metrics} (h : m.kind ≠ t.kind) : t.amount m = 0 := by
  revert h
  cases t <;> cases m <;> simp [Metrics.kind, kind, amount]

/-- The sum over all measurements is the one over those of the total's own kind. -/
theorem sum_amount_filter (t : Total) (ms : List Metrics) :
    ((ms.filter (·.kind = t.kind)).map t.amount).sum = (ms.map t.amount).sum := by
  induction ms with
  | nil => rfl
  | cons m ms ih =>
    by_cases h : m.kind = t.kind
    · simp [h, ih]
    · simp [h, ih, amount_of_ne h]

end Total

namespace Usage

/-- A total by its name. -/
def get (u : Usage) : Total → UInt64
  | .llmPromptTokens => u.llmPromptTokens
  | .llmCompletionTokens => u.llmCompletionTokens
  | .llmDurationMs => u.llmDurationMs
  | .ttsCharacters => u.ttsCharacters
  | .ttsAudioDurationMs => u.ttsAudioDurationMs
  | .sttAudioDurationMs => u.sttAudioDurationMs
  | .eouCount => u.eouCount
  | .eouDelayTotalMs => u.eouDelayTotalMs

theorem ext_get {u v : Usage} (h : ∀ t, u.get t = v.get t) : u = v := by
  cases u
  cases v
  simp only [mk.injEq]
  exact ⟨h .llmPromptTokens, h .llmCompletionTokens, h .llmDurationMs, h .ttsCharacters,
    h .ttsAudioDurationMs, h .sttAudioDurationMs, h .eouCount, h .eouDelayTotalMs⟩

/-- The totals of two conversations, each of them added with the greatest word as its limit. -/
def plus (u v : Usage) : Usage where
  llmPromptTokens := saturatingAdd u.llmPromptTokens v.llmPromptTokens
  llmCompletionTokens := saturatingAdd u.llmCompletionTokens v.llmCompletionTokens
  llmDurationMs := saturatingAdd u.llmDurationMs v.llmDurationMs
  ttsCharacters := saturatingAdd u.ttsCharacters v.ttsCharacters
  ttsAudioDurationMs := saturatingAdd u.ttsAudioDurationMs v.ttsAudioDurationMs
  sttAudioDurationMs := saturatingAdd u.sttAudioDurationMs v.sttAudioDurationMs
  eouCount := saturatingAdd u.eouCount v.eouCount
  eouDelayTotalMs := saturatingAdd u.eouDelayTotalMs v.eouDelayTotalMs

theorem get_plus (u v : Usage) (t : Total) :
    (u.plus v).get t = saturatingAdd (u.get t) (v.get t) := by
  cases t <;> rfl

/-! ## One more measurement -/

/-- A measurement leaves the totals of other kinds as they are. -/
theorem get_collect_of_ne (u : Usage) {m : Metrics} {t : Total} (h : m.kind ≠ t.kind) :
    (u.collect m).get t = u.get t := by
  revert h
  cases t <;> cases m <;> simp [Metrics.kind, Total.kind, collect, get]

/-- A measurement adds its amount to a total; the count has no limit of its own, so there must be
room in it for one more. -/
theorem toNat_get_collect (u : Usage) (m : Metrics) (t : Total)
    (hroom : u.eouCount.toNat < 2 ^ 64 - 1) :
    ((u.collect m).get t).toNat = min ((u.get t).toNat + t.amount m) (2 ^ 64 - 1) := by
  by_cases h : m.kind = t.kind
  · cases t <;> cases m <;> try contradiction
    case eouCount.eou =>
      have hone : (u.eouCount + 1).toNat = (u.eouCount.toNat + 1) % 2 ^ 64 := UInt64.toNat_add _ _
      simp only [collect, get, Total.amount]
      omega
    all_goals exact toNat_saturatingAdd _ _
  · rw [get_collect_of_ne u h, Total.amount_of_ne h]
    have hlt := (u.get t).toNat_lt
    omega

/-! ## A list of measurements -/

theorem collectAll_snoc (u : Usage) (ms : List Metrics) (m : Metrics) :
    u.collectAll (ms ++ [m]) = (u.collectAll ms).collect m := by
  rw [collectAll, collectAll, List.foldl_append]
  rfl

theorem Total.sum_amount_eouCount (ms : List Metrics) :
    (ms.map Total.eouCount.amount).sum = (ms.filter (·.kind = .eou)).length := by
  induction ms with
  | nil => rfl
  | cons m ms ih => cases m <;> simp [Total.amount, Metrics.kind, ih, Nat.add_comm]

/-- A total is the exact sum of the amounts that were added to it, or the greatest word. -/
theorem toNat_get_collectAll {ms : List Metrics} (hlength : ms.length < 2 ^ 64) (t : Total) :
    ((zero.collectAll ms).get t).toNat = min (ms.map t.amount).sum (2 ^ 64 - 1) := by
  induction ms using List.reverseRecOn generalizing t with
  | nil => cases t <;> rfl
  | append_singleton ms m ih =>
    rw [List.length_append, List.length_singleton] at hlength
    have hbefore := ih (by omega)
    -- there are fewer pauses than measurements, so the count has room
    have hcount : (zero.collectAll ms).eouCount.toNat ≤ ms.length := by
      have heq : (zero.collectAll ms).eouCount.toNat = _ := hbefore .eouCount
      have hle := List.length_filter_le (fun m => decide (m.kind = .eou)) ms
      rw [Total.sum_amount_eouCount] at heq
      omega
    rw [collectAll_snoc, toNat_get_collect _ m t (by omega), hbefore t, List.map_append,
      List.sum_append]
    simp only [List.map_cons, List.map_nil, List.sum_cons, List.sum_nil]
    omega

/-- Totals collected into empty ones are, for each total, the exact sum of the field that it is
about over the measurements of its kind, or the greatest word if the sum is greater; the count is
exact. A measurement changes the totals of its kind only. The order of the measurements makes no
difference, no total ever gets smaller, and to collect two lists after each other is to add their
totals. -/
theorem collectAll_totals (ms : List Metrics) (hlength : ms.length < 2 ^ 64) :
    (∀ t : Total, ((zero.collectAll ms).get t).toNat =
      min ((ms.filter (·.kind = t.kind)).map t.amount).sum (2 ^ 64 - 1)) ∧
    (zero.collectAll ms).eouCount.toNat = (ms.filter (·.kind = .eou)).length ∧
    (∀ (u : Usage) (m : Metrics) (t : Total), m.kind ≠ t.kind → (u.collect m).get t = u.get t) ∧
    (∀ ms' : List Metrics, ms'.Perm ms → zero.collectAll ms' = zero.collectAll ms) ∧
    ∀ before after : List Metrics, ms = before ++ after →
      (∀ t : Total, (zero.collectAll before).get t ≤ (zero.collectAll ms).get t) ∧
      zero.collectAll ms = (zero.collectAll before).plus (zero.collectAll after) := by
  refine ⟨?_, ?_, ?_, ?_, ?_⟩
  · intro t
    rw [toNat_get_collectAll hlength t, t.sum_amount_filter]
  · have hcount : (zero.collectAll ms).eouCount.toNat = _ := toNat_get_collectAll hlength .eouCount
    have hle := List.length_filter_le (fun m => decide (m.kind = .eou)) ms
    rw [Total.sum_amount_eouCount] at hcount
    omega
  · intro u m t hne
    exact u.get_collect_of_ne hne
  · intro ms' hperm
    apply ext_get
    intro t
    apply UInt64.toNat_inj.1
    have hlength' : ms'.length < 2 ^ 64 := hperm.length_eq ▸ hlength
    rw [toNat_get_collectAll hlength' t, toNat_get_collectAll hlength t,
      (hperm.map t.amount).sum_eq]
  · rintro before after rfl
    rw [List.length_append] at hlength
    have hbefore : before.length < 2 ^ 64 := by omega
    have hafter : after.length < 2 ^ 64 := by omega
    have hboth : ∀ t : Total, ((zero.collectAll (before ++ after)).get t).toNat =
        min ((before.map t.amount).sum + (after.map t.amount).sum) (2 ^ 64 - 1) := by
      intro t
      rw [toNat_get_collectAll (by rw [List.length_append]; exact hlength) t, List.map_append,
        List.sum_append]
    constructor
    · intro t
      rw [UInt64.le_iff_toNat_le, toNat_get_collectAll hbefore t, hboth t]
      omega
    · apply ext_get
      intro t
      apply UInt64.toNat_inj.1
      rw [get_plus, toNat_saturatingAdd, toNat_get_collectAll hbefore t,
        toNat_get_collectAll hafter t, hboth t]
      omega

/-- The characters reach the greatest word in the middle of the list, and the same from its end. -/
theorem collectAll_totals_greatest :
    let early : List Metrics := [.tts 0xFFFFFFFFFFFFFFF0 1, .eou 7 0, .tts 0x20 2]
    let late : List Metrics := [.eou 3 9, .tts 5 4]
    (early ++ late).length < 2 ^ 64 ∧
      ((zero.collectAll (early ++ late)).get .ttsCharacters).toNat = 2 ^ 64 - 1 ∧
      (zero.collectAll (early ++ late)).eouCount.toNat = 2 ∧
      zero.collectAll (late ++ early) = zero.collectAll (early ++ late) ∧
      zero.collectAll (early ++ late) = (zero.collectAll early).plus (zero.collectAll late) := by
  intro early late
  have hlength : (early ++ late).length < 2 ^ 64 := by decide
  obtain ⟨hsums, hcount, -, horder, hcut⟩ := collectAll_totals (early ++ late) hlength
  exact ⟨hlength, hsums .ttsCharacters, hcount, horder _ List.perm_append_comm,
    (hcut early late rfl).2⟩

end Usage

end TurnTaking
