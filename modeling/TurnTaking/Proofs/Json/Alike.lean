import TurnTaking.Proofs.Json.Records
/-!
# Reading like objects alike

When two objects have like values under the names of a record, the record is read alike from both.
What values are alike is a matter of the field: mostly the same ones, but a default may also be
spelled out, and a value may itself be written in two ways. That a record heeds such a likeness is
shown field by field, along the way in which its fields have been put together.

The main statements are `Likened.read_iff` and, for records with a tag, `Likened.tagged_iff`.
-/

namespace TurnTaking.Json

variable {α β κ : Type}

/-! ## Field by field -/

namespace Fields

/-- Whether a record is read alike from values that are alike by name. -/
structure Heeds (fs : Fields α) (alike : String → Option Json → Option Json → Prop) : Prop where
  own : fs.ChecksOwn
  reads : ∀ {look look'}, (∀ name ∈ fs.names, alike name (look name) (look' name)) →
    ∀ a, fs.Reads look' a ↔ fs.Reads look a

variable {alike : String → Option Json → Option Json → Prop} {name : String}

/-- A field, when like values come to the same. -/
theorem Heeds.field {read : Reader α} {absent : Except Misfit α}
    (h : ∀ u u', alike name u u' → ∀ a,
      given read absent u' = .ok a ↔ given read absent u = .ok a) :
    (Fields.field name read absent).Heeds alike where
  own key v hkey := if_neg fun heq => hkey (List.mem_singleton.2 heq)
  reads hlook a := by
    rw [reads_field_iff, reads_field_iff]
    exact h _ _ (hlook name (List.mem_singleton.2 rfl)) a

/-- A field for which only the same values are alike. -/
theorem Heeds.same {read : Reader α} {absent : Except Misfit α}
    (h : ∀ u u', alike name u u' → u' = u) : (Fields.field name read absent).Heeds alike := by
  apply Heeds.field
  intro u u' halike a
  rw [h u u' halike]

/-- A field for which its default, when it is spelled out, is also like nothing. -/
theorem Heeds.optional {read : Reader α} {default : α}
    (h : ∀ u u', alike name u u' → u' = u ∨ u = none ∧ ∃ v, u' = some v ∧ read v = .ok default) :
    (Fields.optional name read default).Heeds alike := by
  apply Heeds.field
  intro u u' halike a
  rcases h u u' halike with rfl | ⟨rfl, v, rfl, hread⟩
  · rfl
  · show read v = .ok a ↔ Except.ok default = .ok a
    rw [hread]

theorem Heeds.seq {f : Fields (α → β)} {x : Fields α} (hf : f.Heeds alike) (hx : x.Heeds alike) :
    (f <*> x).Heeds alike where
  own key v hkey := by
    have hkeys : key ∉ f.names ∧ key ∉ x.names := not_or.1 fun h => hkey (List.mem_append.2 h)
    show (f.check key v >>= fun _ => x.check key v) = .ok ()
    rw [hf.own key v hkeys.1]
    exact hx.own key v hkeys.2
  reads hlook b := by
    have hleft := hf.reads fun name hname => hlook name (List.mem_append_left _ hname)
    have hright := hx.reads fun name hname => hlook name (List.mem_append_right _ hname)
    simp only [reads_seq_iff, hleft, hright]

theorem Heeds.pure (a : α) : (Pure.pure a : Fields α).Heeds alike where
  own _ _ _ := rfl
  reads _ _ := by
    constructor
    · intro h
      exact ⟨fun _ _ _ => rfl, h.build⟩
    · intro h
      exact ⟨fun _ _ _ => rfl, h.build⟩

theorem Heeds.map {x : Fields α} (g : α → β) (hx : x.Heeds alike) : (g <$> x).Heeds alike :=
  (Heeds.pure g).seq hx

end Fields

/-! ## Like objects -/

/-- Two objects have like values under some names, none of which comes twice in one of them. -/
structure Likened (known : List String) (alike : String → Option Json → Option Json → Prop)
    (members members' : List (String × Json)) : Prop where
  once : Once known members
  once' : Once known members'
  lookup : ∀ name ∈ known, alike name (Fields.lookup members name) (Fields.lookup members' name)

variable {known : List String} {alike : String → Option Json → Option Json → Prop}
  {tag : String} {members members' : List (String × Json)}

theorem Likened.mono {alike' : String → Option Json → Option Json → Prop}
    (h : Likened known alike members members')
    (halike : ∀ name u u', alike name u u' → alike' name u u') :
    Likened known alike' members members' where
  once := h.once
  once' := h.once'
  lookup name hname := halike name _ _ (h.lookup name hname)

/-- A record is read alike from two objects with like values under its names. -/
theorem Likened.read_iff (h : Likened known alike members members') {fs : Fields α}
    (hfs : fs.Heeds alike) (hnames : ∀ name ∈ fs.names, name ∈ known) (what : String)
    (source : Source) (a : α) :
    fs.read what source (.obj members') = .ok a ↔ fs.read what source (.obj members) = .ok a := by
  rw [Fields.read_object_iff hfs.own (h.once'.mono hnames),
    Fields.read_object_iff hfs.own (h.once.mono hnames)]
  exact hfs.reads (fun name hname => h.lookup name (hnames name hname)) a

/-- Likewise without the tag, if no field of the record is called like the tag. -/
theorem Likened.read_without_tag_iff (h : Likened known alike members members') {fs : Fields α}
    (hfs : fs.Heeds alike) (hnames : ∀ name ∈ fs.names, name ∈ known) (htag : tag ∉ fs.names)
    (what : String) (source : Source) (a : α) :
    fs.read what source (.obj (members'.filter (·.1 != tag))) = .ok a ↔
      fs.read what source (.obj (members.filter (·.1 != tag))) = .ok a := by
  have hne : ∀ name ∈ fs.names, name ≠ tag := by
    rintro name hname rfl
    exact htag hname
  have hlike : Likened fs.names alike (members.filter (·.1 != tag))
      (members'.filter (·.1 != tag)) := by
    constructor
    · intro name hname
      rw [valuesOf_without_tag (hne name hname)]
      exact h.once name (hnames name hname)
    · intro name hname
      rw [valuesOf_without_tag (hne name hname)]
      exact h.once' name (hnames name hname)
    · intro name hname
      rw [lookup_without_tag (hne name hname), lookup_without_tag (hne name hname)]
      exact h.lookup name (hnames name hname)
  exact hlike.read_iff hfs (fun _ hname => hname) what source a

/-- A record with a tag is read alike from two objects with the same tag if the record of its kind
is. -/
theorem Likened.tagged_iff (h : Likened known alike members members') (hknown : tag ∈ known)
    (hsame : ∀ u u', alike tag u u' → u' = u) {name : String} {kinds : List (String × κ)}
    {source : Source} {read : κ × Json → Except Misfit α}
    (hread : ∀ k a, read (k, .obj (members'.filter (·.1 != tag))) = .ok a ↔
      read (k, .obj (members.filter (·.1 != tag))) = .ok a) (a : α) :
    (tagged name tag kinds source (.obj members') >>= read) = .ok a ↔
      (tagged name tag kinds source (.obj members) >>= read) = .ok a := by
  have htag : valuesOf tag members' = valuesOf tag members :=
    valuesOf_eq_of_lookup_eq (h.once tag hknown) (h.once' tag hknown)
      (hsame _ _ (h.lookup tag hknown))
  simp only [tagged_bind_iff, htag, hread]

end TurnTaking.Json
