import TurnTaking.Proofs.Json.Alike
/-!
# Objects in another layout

The members of an object may stand in any order, defaults may be spelled out that were left out
before, and there may be more members with names that nobody knows. Under the known names the values
stay alike, and the object can be read as a whole if it could be before.

The main statements are `Relaid.likened` and `Relaid.readableAt_iff`.
-/

namespace TurnTaking.Json

/-- A value under a name, and the same with a default spelled out. -/
inductive SpelledOut (defaults : List (String × Json)) (name : String) :
    Option Json → Option Json → Prop
  | same (u : Option Json) : SpelledOut defaults name u u
  | default {v : Json} (h : (name, v) ∈ defaults) : SpelledOut defaults name none (some v)

/-- Members in another layout: in another order, with defaults spelled out that are left out, and
with more members, each readable `level` arrays and objects deep, whose names nobody knows. -/
def Relaid (known : List String) (defaults : List (String × Json)) (level : Nat)
    (members members' : List (String × Json)) : Prop :=
  ∃ spelled extra, spelled.Sublist defaults ∧ (∀ m ∈ spelled, m.1 ∉ members.map (·.1)) ∧
    (∀ m ∈ extra, m.1 ∉ known ∧ m.2.readableAt level = true) ∧
    members'.Perm (members ++ spelled ++ extra)

variable {known : List String} {defaults : List (String × Json)} {level : Nat}
  {members members' : List (String × Json)}

theorem eq_of_perm_of_length_le_one {vs ws : List Json} (h : vs.Perm ws) (hws : ws.length ≤ 1) :
    vs = ws := by
  rcases ws with _ | ⟨w, _ | ⟨w', ws⟩⟩
  · exact List.perm_nil.1 h
  · exact List.perm_singleton.1 h
  · simp at hws

/-- Under a known name stand the same values as before, or a default and nothing before. -/
theorem Relaid.valuesOf_eq_or (h : Relaid known defaults level members members')
    (hkeys : (members.map (·.1)).Nodup) (hdefaults : (defaults.map (·.1)).Nodup) {name : String}
    (hname : name ∈ known) :
    valuesOf name members' = valuesOf name members ∨
      valuesOf name members = [] ∧ ∃ v, (name, v) ∈ defaults ∧ valuesOf name members' = [v] := by
  rcases h with ⟨spelled, extra, hsub, hnew, hextra, hperm⟩
  have hnone : valuesOf name extra = [] := by
    apply valuesOf_eq_nil
    intro hin
    rcases List.mem_map.1 hin with ⟨m, hm, rfl⟩
    exact (hextra m hm).1 hname
  have hvalues : (valuesOf name members').Perm
      (valuesOf name members ++ valuesOf name spelled) := by
    have hall : (valuesOf name members').Perm (valuesOf name (members ++ spelled ++ extra)) :=
      valuesOf_perm hperm
    rwa [valuesOf_append, valuesOf_append, hnone, List.append_nil] at hall
  have honce := once_of_nodup known hkeys name hname
  have honce' := once_of_nodup known ((hsub.map (·.1)).nodup hdefaults) name hname
  rcases hspelled : valuesOf name spelled with _ | ⟨v, vs⟩
  · left
    rw [hspelled, List.append_nil] at hvalues
    exact eq_of_perm_of_length_le_one hvalues honce
  · -- a default is spelled out, so nothing stood there before
    right
    have hmem : (name, v) ∈ spelled := by
      rw [← mem_valuesOf, hspelled]
      exact List.mem_cons_self
    have habsent : valuesOf name members = [] := valuesOf_eq_nil (hnew _ hmem)
    have hsingle : vs = [] := by
      rw [hspelled, List.length_cons] at honce'
      exact List.eq_nil_of_length_eq_zero (by omega)
    refine ⟨habsent, v, hsub.subset hmem, ?_⟩
    rw [habsent, hspelled, hsingle] at hvalues
    exact List.perm_singleton.1 hvalues

theorem Relaid.likened (h : Relaid known defaults level members members')
    (hkeys : (members.map (·.1)).Nodup) (hdefaults : (defaults.map (·.1)).Nodup) :
    Likened known (SpelledOut defaults) members members' where
  once := once_of_nodup known hkeys
  once' name hname := by
    rcases h.valuesOf_eq_or hkeys hdefaults hname with hsame | ⟨-, v, -, hnew⟩
    · rw [hsame]
      exact once_of_nodup known hkeys name hname
    · rw [hnew]
      exact Nat.le_refl 1
  lookup name hname := by
    rw [lookup_eq_head?, lookup_eq_head?]
    rcases h.valuesOf_eq_or hkeys hdefaults hname with hsame | ⟨hnone, v, hv, hnew⟩
    · rw [hsame]
      exact SpelledOut.same _
    · rw [hnone, hnew]
      exact SpelledOut.default hv

/-- What is spelled out or added can be read, so the whole can be read if it could before. -/
theorem Relaid.readableAt_iff (h : Relaid known defaults (level + 1) members members')
    (hdefaults : ∀ m ∈ defaults, m.2.readableAt (level + 1) = true) :
    (Json.obj members').readableAt level = true ↔ (Json.obj members).readableAt level = true := by
  rcases h with ⟨spelled, extra, hsub, -, hextra, hperm⟩
  have hspelled : ∀ m ∈ spelled, m.2.readableAt (level + 1) = true := fun m hm =>
    hdefaults m (hsub.subset hm)
  have hmembers : (∀ m ∈ members', m.2.readableAt (level + 1) = true) ↔
      ∀ m ∈ members, m.2.readableAt (level + 1) = true := by
    constructor
    · intro hall m hm
      apply hall m
      rw [hperm.mem_iff, List.append_assoc]
      exact List.mem_append_left _ hm
    · intro hall m hm
      rw [hperm.mem_iff, List.mem_append, List.mem_append] at hm
      rcases hm with (hm | hm) | hm
      · exact hall m hm
      · exact hspelled m hm
      · exact (hextra m hm).2
  rw [readableAt_obj_iff, readableAt_obj_iff, hmembers]

/-- Where there is no default, the same values are alike. -/
theorem SpelledOut.eq {name : String} (hname : name ∉ defaults.map (·.1)) {u u' : Option Json}
    (h : SpelledOut defaults name u u') : u' = u := by
  cases h with
  | same => rfl
  | default hv => exact absurd (List.mem_map_of_mem (f := (·.1)) hv) hname

/-- Where the default is the value that is read when there is none, it may also be left out. -/
theorem SpelledOut.eq_or_reads {α : Type} {name : String} {read : Reader α} {value : α}
    (hread : ∀ v, (name, v) ∈ defaults → read v = .ok value) {u u' : Option Json}
    (h : SpelledOut defaults name u u') :
    u' = u ∨ u = none ∧ ∃ v, u' = some v ∧ read v = .ok value := by
  cases h with
  | same => exact Or.inl rfl
  | default hv => exact Or.inr ⟨rfl, _, rfl, hread _ hv⟩

end TurnTaking.Json
