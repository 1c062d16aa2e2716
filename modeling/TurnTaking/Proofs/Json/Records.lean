import TurnTaking.Proofs.Json.Members
/-!
# Reading records from fitting members

What a reader of records makes of an object in which no key comes twice. The members are given by
a function from names to values, and that they fit is shown field by field, along the way in which
the fields of the record have been put together.

The main statements are `Fields.read_object` and `Fields.read_object_iff`, that fitting members are
read as the record and no others are, and `tagged_object`, that a record with its tag in front is
read as its kind and the rest.
-/

namespace TurnTaking.Json

variable {α β κ : Type}

namespace Fields

/-! ## Fitting members -/

/-- The values by name fit the fields, and the record that they make is `a`. -/
structure Reads (fs : Fields α) (look : String → Option Json) (a : α) : Prop where
  check : ∀ key v, look key = some v → fs.check key v = .ok ()
  build : fs.build look = .ok a

variable {fs : Fields α} {look : String → Option Json} {name : String} {v : Json} {a : α}

theorem Reads.field {read : Reader α} {absent : Except Misfit α} (hv : look name = some v)
    (hread : read v = .ok a) : (Fields.field name read absent).Reads look a where
  check key w hw := by
    by_cases hkey : key = name
    · obtain rfl : v = w := Option.some.inj (hv.symm.trans (hkey ▸ hw))
      simp only [Fields.field, if_pos hkey, hread]
      rfl
    · simp only [Fields.field, if_neg hkey]
  build := by
    simp only [Fields.field, hv, hread]

theorem Reads.required {read : Reader α} (hv : look name = some v) (hread : read v = .ok a) :
    (Fields.required name read).Reads look a :=
  Reads.field hv hread

theorem Reads.optional {read : Reader α} {default : α} (hv : look name = some v)
    (hread : read v = .ok a) : (Fields.optional name read default).Reads look a :=
  Reads.field hv hread

/-- A field that may be left out has its default when it is. -/
theorem Reads.absent {read : Reader α} {default : α} (hv : look name = none) :
    (Fields.optional name read default).Reads look default where
  check key w hw := by
    have hkey : key ≠ name := by
      rintro rfl
      rw [hv] at hw
      cases hw
    simp only [Fields.optional, Fields.field, if_neg hkey]
  build := by
    simp only [Fields.optional, Fields.field, hv]

theorem Reads.seq {f : Fields (α → β)} {x : Fields α} {g : α → β} (hf : f.Reads look g)
    (hx : x.Reads look a) : (f <*> x).Reads look (g a) where
  check key v hv := by
    show (f.check key v >>= fun _ => x.check key v) = .ok ()
    rw [hf.check key v hv]
    exact hx.check key v hv
  build := by
    show (f.build look >>= fun g => x.build look >>= fun a => pure (g a)) = .ok (g a)
    rw [hf.build]
    show (x.build look >>= fun a => pure (g a)) = .ok (g a)
    rw [hx.build]
    rfl

theorem Reads.map {x : Fields α} (g : α → β) (hx : x.Reads look a) :
    (g <$> x).Reads look (g a) :=
  Reads.seq (f := pure g) ⟨fun _ _ _ => rfl, rfl⟩ hx

/-- What becomes of the value of a field, which may be absent. -/
def given (read : Reader α) (absent : Except Misfit α) : Option Json → Except Misfit α
  | some v => read v
  | none => absent

/-- A value that fits its field also passes the check of the field. -/
theorem reads_field_iff {read : Reader α} {absent : Except Misfit α} :
    (field name read absent).Reads look a ↔ given read absent (look name) = .ok a := by
  constructor
  · intro h
    have hbuild : (field name read absent).build look = .ok a := h.build
    cases hv : look name with
    | none => simpa [field, hv, given] using hbuild
    | some v => simpa [field, hv, given] using hbuild
  · intro h
    cases hv : look name with
    | none =>
      rw [hv] at h
      obtain rfl : absent = .ok a := h
      exact Reads.absent hv
    | some v =>
      rw [hv] at h
      exact Reads.field hv h

theorem reads_seq_iff {f : Fields (α → β)} {x : Fields α} {b : β} :
    (f <*> x).Reads look b ↔ ∃ g a, f.Reads look g ∧ x.Reads look a ∧ g a = b := by
  constructor
  · rintro ⟨hcheck, hbuild⟩
    have hparts : (f.build look >>= fun g => x.build look >>= fun a => pure (g a)) = .ok b := hbuild
    simp only [bind_eq_ok_iff] at hparts
    rcases hparts with ⟨g, hg, a, ha, hb⟩
    have hboth : ∀ key v, look key = some v → f.check key v = .ok () ∧ x.check key v = .ok () := by
      intro key v hv
      have hcheck' : (f.check key v >>= fun _ => x.check key v) = .ok () := hcheck key v hv
      rcases bind_eq_ok_iff.1 hcheck' with ⟨_, hf, hx⟩
      exact ⟨hf, hx⟩
    have hf : f.Reads look g := ⟨fun key v hv => (hboth key v hv).1, hg⟩
    have hx : x.Reads look a := ⟨fun key v hv => (hboth key v hv).2, ha⟩
    exact ⟨g, a, hf, hx, Except.ok.inj hb⟩
  · rintro ⟨g, a, hf, hx, rfl⟩
    exact hf.seq hx

/-! ## Objects -/

variable {members : List (String × Json)}

/-- An object in which no name of a record comes twice is read as the record if its members fit. -/
theorem Reads.read (h : fs.Reads (lookup members) a) (honce : Once fs.names members)
    (what : String) (source : Source) : fs.read what source (.obj members) = .ok a := by
  have hscan : fs.scan [] members = .ok () := by
    rw [scan_eq_ok_iff honce]
    intro m hm hname
    exact h.check m.1 m.2 ((lookup_eq_some_iff (honce m.1 hname)).2 hm)
  show (fs.scan [] members >>= fun _ => fs.build (lookup members)) = .ok a
  rw [hscan]
  exact h.build

theorem read_object (hkeys : (members.map (·.1)).Nodup) (h : fs.Reads (lookup members) a)
    (what : String) (source : Source) : fs.read what source (.obj members) = .ok a :=
  h.read (once_of_nodup fs.names hkeys) what source

/-- Whether a record asks for nothing but its own fields. -/
def ChecksOwn (fs : Fields α) : Prop :=
  ∀ key v, key ∉ fs.names → fs.check key v = .ok ()

/-- Only members that fit are read as the record. -/
theorem read_object_iff (hown : fs.ChecksOwn) (honce : Once fs.names members) (what : String)
    (source : Source) :
    fs.read what source (.obj members) = .ok a ↔ fs.Reads (lookup members) a := by
  constructor
  · intro h
    have hparts : (fs.scan [] members >>= fun _ => fs.build (lookup members)) = .ok a := h
    rcases bind_eq_ok_iff.1 hparts with ⟨_, hscan, hbuild⟩
    have hfit := (scan_eq_ok_iff honce).1 hscan
    refine ⟨?_, hbuild⟩
    intro key v hv
    by_cases hkey : key ∈ fs.names
    · exact hfit (key, v) ((lookup_eq_some_iff (honce key hkey)).1 hv) hkey
    · exact hown key v hkey
  · intro h
    exact h.read honce what source

end Fields

theorem Reader.word_nat (n : UInt64) : Reader.word (.nat n) = .ok n :=
  rfl

/-! ## Tags -/

theorem tagged_object {name tag label : String} {kinds : List (String × κ)} {k : κ}
    {members : List (String × Json)} (hkind : choose kinds label = .ok k)
    (htag : tag ∉ members.map (·.1)) (source : Source) :
    tagged name tag kinds source (.obj ((tag, .str label) :: members)) = .ok (k, .obj members) := by
  have hread : readTag kinds source (.str label) = .ok k := by
    rw [readTag, hkind]
  have hfind : findTag tag kinds source none ((tag, .str label) :: members) = .ok k := by
    refine findTag_eq_ok_iff.2 ⟨.str label, ?_, hread⟩
    rw [valuesOf_cons_self, valuesOf_eq_nil htag]
  have hrest : ((tag, Json.str label) :: members).filter (·.1 != tag) = members := by
    rw [List.filter_cons_of_neg (by simp), List.filter_eq_self]
    intro m hm
    rw [bne_iff_ne]
    exact fun heq => htag (heq ▸ List.mem_map_of_mem (f := (·.1)) hm)
  show (findTag tag kinds source none ((tag, .str label) :: members) >>= fun k =>
    pure (k, Json.obj (((tag, .str label) :: members).filter (·.1 != tag)))) = _
  rw [hfind, hrest]
  rfl

end TurnTaking.Json
