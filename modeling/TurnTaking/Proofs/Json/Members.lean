import Mathlib.Data.List.Nodup
import Mathlib.Data.List.Perm.Basic
import TurnTaking.Json.Choice
/-!
# The members of an object

A reader of records asks an object for the values that stand under certain names. The order of the
members is of no account to these (`valuesOf_perm`), nor are members with other names. Where no name
of a record comes twice, the checks in the order of the text (`Fields.scan`) find no fault just if
each value fits its field, and a tag is found just if it comes once.

The main statements are `Fields.scan_eq_ok_iff`, `findTag_eq_ok_iff` and, for the object as a whole,
`readableAt_obj_iff`.
-/

namespace TurnTaking.Json

variable {α β κ : Type}

/-! ## The values with a key -/

/-- The values with a key, in the order of the members. -/
def valuesOf (key : String) (members : List (String × Json)) : List Json :=
  (members.filter (·.1 == key)).map (·.2)

section

variable {key tag : String} {v : Json} {m : String × Json}
  {members members' : List (String × Json)}

theorem valuesOf_cons_self (v : Json) (members : List (String × Json)) :
    valuesOf key ((key, v) :: members) = v :: valuesOf key members := by
  simp [valuesOf]

theorem valuesOf_cons_of_ne (h : m.1 ≠ key) :
    valuesOf key (m :: members) = valuesOf key members := by
  simp [valuesOf, h]

theorem valuesOf_append :
    valuesOf key (members ++ members') = valuesOf key members ++ valuesOf key members' := by
  simp [valuesOf]

theorem valuesOf_perm (h : members.Perm members') :
    (valuesOf key members).Perm (valuesOf key members') :=
  (h.filter _).map _

theorem mem_valuesOf : v ∈ valuesOf key members ↔ (key, v) ∈ members := by
  simp [valuesOf]

theorem valuesOf_eq_nil (h : key ∉ members.map (·.1)) : valuesOf key members = [] := by
  rw [List.eq_nil_iff_forall_not_mem]
  intro v hv
  exact h (List.mem_map_of_mem (f := (·.1)) (mem_valuesOf.1 hv))

/-- Under another key than the tag a record has the same values with its tag and without. -/
theorem valuesOf_without_tag (h : key ≠ tag) :
    valuesOf key (members.filter (·.1 != tag)) = valuesOf key members := by
  rw [valuesOf, valuesOf, List.filter_filter]
  congr 1
  apply List.filter_congr
  intro m _
  by_cases hkey : m.1 = key
  · simp [hkey, h]
  · simp [hkey]

theorem lookup_cons_self (m : String × Json) (members : List (String × Json)) :
    Fields.lookup (m :: members) m.1 = some m.2 := by
  simp [Fields.lookup]

theorem lookup_cons_of_ne (h : m.1 ≠ key) :
    Fields.lookup (m :: members) key = Fields.lookup members key := by
  simp [Fields.lookup, h]

theorem lookup_eq_head? : Fields.lookup members key = (valuesOf key members).head? := by
  rw [Fields.lookup, valuesOf, List.head?_map, List.head?_filter]

/-- None of some names comes twice. -/
def Once (names : List String) (members : List (String × Json)) : Prop :=
  ∀ name ∈ names, (valuesOf name members).length ≤ 1

theorem Once.of_cons {names : List String} (h : Once names (m :: members)) :
    Once names members := by
  intro name hname
  have hle := h name hname
  by_cases hkey : m.1 = name
  · subst hkey
    rw [valuesOf_cons_self, List.length_cons] at hle
    omega
  · rwa [valuesOf_cons_of_ne hkey] at hle

theorem Once.mono {names names' : List String} (h : Once names members)
    (hnames : ∀ name ∈ names', name ∈ names) : Once names' members :=
  fun name hname => h name (hnames name hname)

theorem once_of_nodup (names : List String) (hkeys : (members.map (·.1)).Nodup) :
    Once names members := by
  intro name _
  induction members with
  | nil => simp [valuesOf]
  | cons m ms ih =>
    rw [List.map_cons, List.nodup_cons] at hkeys
    by_cases hkey : m.1 = name
    · subst hkey
      rw [valuesOf_cons_self, valuesOf_eq_nil hkeys.1]
      exact Nat.le_refl 1
    · rw [valuesOf_cons_of_ne hkey]
      exact ih hkeys.2

/-- Where a key does not come twice, the value found for it stands for all of them. -/
theorem valuesOf_eq_of_lookup_eq (honce : (valuesOf key members).length ≤ 1)
    (honce' : (valuesOf key members').length ≤ 1)
    (h : Fields.lookup members' key = Fields.lookup members key) :
    valuesOf key members' = valuesOf key members := by
  have hvalues : ∀ vs : List Json, vs.length ≤ 1 → vs = vs.head?.toList := by
    rintro (_ | ⟨v, _ | ⟨w, ws⟩⟩) hlength
    · rfl
    · rfl
    · simp at hlength
  rw [lookup_eq_head?, lookup_eq_head?] at h
  rw [hvalues _ honce, hvalues _ honce', h]

theorem lookup_without_tag (h : key ≠ tag) :
    Fields.lookup (members.filter (·.1 != tag)) key = Fields.lookup members key := by
  rw [lookup_eq_head?, lookup_eq_head?, valuesOf_without_tag h]

theorem lookup_eq_some_iff (honce : (valuesOf key members).length ≤ 1) :
    Fields.lookup members key = some v ↔ (key, v) ∈ members := by
  rw [lookup_eq_head?, ← mem_valuesOf]
  rcases hvalues : valuesOf key members with _ | ⟨w, _ | ⟨w', ws⟩⟩
  · simp
  · simp [eq_comm]
  · simp [hvalues] at honce

end

/-! ## Outcomes -/

theorem bind_eq_ok_iff {ε : Type} {x : Except ε α} {f : α → Except ε β} {b : β} :
    (x >>= f) = .ok b ↔ ∃ a, x = .ok a ∧ f a = .ok b := by
  cases x with
  | error e =>
    constructor
    · intro h
      cases h
    · rintro ⟨a, ha, -⟩
      cases ha
  | ok a =>
    constructor
    · intro h
      exact ⟨a, rfl, h⟩
    · rintro ⟨a', ha, h⟩
      cases ha
      exact h

theorem map_eq_ok_iff {ε : Type} {x : Except ε α} {f : α → β} {b : β} :
    x.map f = .ok b ↔ ∃ a, x = .ok a ∧ f a = b := by
  cases x <;> simp [Except.map]

/-! ## The checks in the order of the text -/

section

variable {fs : Fields α} {members : List (String × Json)}

/-- Where no field comes up that has been seen before, no fault is found if each member with the name
of a field fits it. -/
theorem Fields.scan_seen_eq_ok_iff (honce : Once fs.names members) {seen : List String}
    (hseen : ∀ name ∈ seen, name ∈ fs.names → valuesOf name members = []) :
    fs.scan seen members = .ok () ↔
      ∀ m ∈ members, m.1 ∈ fs.names → fs.check m.1 m.2 = .ok () := by
  induction members generalizing seen with
  | nil => simp [Fields.scan]
  | cons m ms ih =>
    rcases m with ⟨key, v⟩
    rw [Fields.scan, List.forall_mem_cons]
    by_cases hkey : key ∈ fs.names
    · have hnew : key ∉ seen := by
        intro hin
        have hnone := hseen key hin hkey
        rw [valuesOf_cons_self] at hnone
        cases hnone
      -- behind the first member its key does not come again
      have hseen' : ∀ name ∈ key :: seen, name ∈ fs.names → valuesOf name ms = [] := by
        intro name hname hfield
        by_cases heq : key = name
        · subst heq
          have hle := honce key hkey
          rw [valuesOf_cons_self, List.length_cons] at hle
          exact List.eq_nil_of_length_eq_zero (by omega)
        · have hin : name ∈ seen := (List.mem_cons.1 hname).resolve_left (Ne.symm heq)
          have hnone := hseen name hin hfield
          rwa [valuesOf_cons_of_ne heq] at hnone
      rw [if_pos hkey, if_neg hnew, bind_eq_ok_iff]
      have hrest := ih honce.of_cons hseen'
      constructor
      · rintro ⟨_, hcheck, hscan⟩
        exact ⟨fun _ => hcheck, hrest.1 hscan⟩
      · rintro ⟨hcheck, hscan⟩
        exact ⟨(), hcheck hkey, hrest.2 hscan⟩
    · have hseen' : ∀ name ∈ seen, name ∈ fs.names → valuesOf name ms = [] := by
        intro name hname hfield
        have hne : key ≠ name := by
          rintro rfl
          exact hkey hfield
        have hnone := hseen name hname hfield
        rwa [valuesOf_cons_of_ne hne] at hnone
      rw [if_neg hkey, ih honce.of_cons hseen']
      simp [hkey]

theorem Fields.scan_eq_ok_iff (honce : Once fs.names members) :
    fs.scan [] members = .ok () ↔ ∀ m ∈ members, m.1 ∈ fs.names → fs.check m.1 m.2 = .ok () :=
  Fields.scan_seen_eq_ok_iff honce fun _ hnil => nomatch hnil

end

/-! ## Tags -/

section

variable {tag : String} {kinds : List (String × κ)} {source : Source}
  {members : List (String × Json)} {k : κ}

theorem findTag_known_iff {known : κ} :
    findTag tag kinds source (some known) members = .ok k ↔
      valuesOf tag members = [] ∧ known = k := by
  induction members with
  | nil => simp [findTag, valuesOf]
  | cons m ms ih =>
    rcases m with ⟨key, v⟩
    rw [findTag]
    by_cases hkey : key = tag
    · subst hkey
      rw [valuesOf_cons_self]
      simp
    · rw [if_neg hkey, valuesOf_cons_of_ne hkey]
      exact ih

/-- The kind is found if the tag comes once and names it. -/
theorem findTag_eq_ok_iff :
    findTag tag kinds source none members = .ok k ↔
      ∃ v, valuesOf tag members = [v] ∧ readTag kinds source v = .ok k := by
  induction members with
  | nil => simp [findTag, valuesOf]
  | cons m ms ih =>
    rcases m with ⟨key, v⟩
    rw [findTag]
    by_cases hkey : key = tag
    · subst hkey
      rw [if_pos rfl, valuesOf_cons_self]
      show (readTag kinds source v >>= fun k => findTag key kinds source (some k) ms) = .ok k ↔ _
      -- the tag stands here, so it must not come again
      simp only [bind_eq_ok_iff, findTag_known_iff]
      constructor
      · rintro ⟨k', hread, hnone, rfl⟩
        exact ⟨v, by rw [hnone], hread⟩
      · rintro ⟨w, hvalues, hread⟩
        rw [List.cons.injEq] at hvalues
        rcases hvalues with ⟨rfl, hnone⟩
        exact ⟨k, hread, hnone, rfl⟩
    · rw [if_neg hkey, valuesOf_cons_of_ne hkey]
      exact ih

theorem tagged_bind_iff {name : String} {read : κ × Json → Except Misfit α} {a : α} :
    (tagged name tag kinds source (.obj members) >>= read) = .ok a ↔
      ∃ v k, valuesOf tag members = [v] ∧ readTag kinds source v = .ok k ∧
        read (k, .obj (members.filter (·.1 != tag))) = .ok a := by
  show (findTag tag kinds source none members >>= fun k =>
    pure (k, Json.obj (members.filter (·.1 != tag)))) >>= read = .ok a ↔ _
  simp only [bind_eq_ok_iff, findTag_eq_ok_iff]
  constructor
  · rintro ⟨p, ⟨k, ⟨v, hvalues, hread⟩, hp⟩, ha⟩
    cases hp
    exact ⟨v, k, hvalues, hread, ha⟩
  · rintro ⟨v, k, hvalues, hread, ha⟩
    exact ⟨_, ⟨k, ⟨v, hvalues, hread⟩, rfl⟩, ha⟩

end

/-! ## Whole values and texts -/

section

variable {members : List (String × Json)}

theorem membersSound_iff :
    membersSound members = true ↔ ∀ m ∈ members, m.2.sound = true := by
  induction members with
  | nil => simp [membersSound]
  | cons m ms ih => simp [membersSound, ih]

theorem membersDepth_add_lt_iff {n limit : Nat} :
    membersDepth members + n < limit ↔ n < limit ∧ ∀ m ∈ members, m.2.depth + n < limit := by
  induction members with
  | nil => simp [membersDepth]
  | cons m ms ih =>
    have hmax : max m.2.depth (membersDepth ms) + n < limit ↔
        m.2.depth + n < limit ∧ membersDepth ms + n < limit := by omega
    rw [membersDepth, hmax, ih, List.forall_mem_cons]
    tauto

/-- An object can be read as a whole if each of its members can, one object deeper. -/
theorem readableAt_obj_iff {level : Nat} :
    (Json.obj members).readableAt level = true ↔
      level + 1 < depthLimit ∧ ∀ m ∈ members, m.2.readableAt (level + 1) = true := by
  have hassoc : membersDepth members + 1 + level = membersDepth members + (level + 1) := by omega
  simp only [readableAt, sound, depth, Bool.and_eq_true, decide_eq_true_eq, membersSound_iff,
    hassoc, membersDepth_add_lt_iff, forall_and]
  tauto

end

theorem heldBack_eq_ok_iff {level : Nat} {read : Reader α} {v : Json} {a : α} :
    heldBack level read v = .ok a ↔ v.readableAt level = true ∧ read v = .ok a := by
  rw [heldBack]
  split
  case isTrue h => simp [h]
  case isFalse h => simp [h]

theorem readText_eq_ok_iff {read : Reader α} {cs : List Char} {a : α} :
    readText read cs = .ok a ↔ ∃ v, ofText? cs = some v ∧ read v = .ok a := by
  rw [readText]
  cases ofText? cs with
  | none => simp
  | some v => cases hread : read v <;> simp [hread]

end TurnTaking.Json
