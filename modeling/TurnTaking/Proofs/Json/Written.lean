import TurnTaking.Proofs.Json.Spacing
/-!
# Objects as they are written

An object is written as its fields with commas between them, and its value is put together from the
fields in that order. The value of a field is read inside an object as it would be read alone: what
is open around it is touched only once the value is complete.

The main statement is `ofText?_object`, which says what a text denotes that spells some fields
between braces.
-/

namespace TurnTaking.Json

namespace Building

/-! ## Reading inside what is open -/

/-- The machine with more arrays and objects open around what it reads. -/
def inside (stack : List Frame) (s : Building) : Building :=
  ⟨s.stack ++ stack, s.place, none⟩

/-- What a step comes to that leads to `u`, when it is made inside a stack: the same, or the end of
the value that is read there. -/
def Follows (stack : List Frame) (u : Building) (next : Option Building) : Prop :=
  (u.result = none ∧ next = some (u.inside stack)) ∨
    ∃ v, u = ⟨[], .after, some v⟩ ∧ next = complete stack v

variable {st : List Frame} {u : Building}

theorem follows_complete {v : Json} (h : complete st v = some u) (stack : List Frame) :
    Follows stack u (complete (st ++ stack) v) := by
  rcases st with _ | ⟨items | members | ⟨members, key⟩, rest⟩
  · cases h
    exact Or.inr ⟨v, rfl, rfl⟩
  · cases h
    exact Or.inl ⟨rfl, rfl⟩
  · cases h
  · cases h
    exact Or.inl ⟨rfl, rfl⟩

theorem follows_value {t : Token} (h : value st t = some u) (stack : List Frame) :
    Follows stack u (value (st ++ stack) t) := by
  rcases t with m | s | v
  · cases m <;> cases h
    · exact Or.inl ⟨rfl, rfl⟩
    · exact Or.inl ⟨rfl, rfl⟩
  · exact follows_complete h stack
  · exact follows_complete h stack

theorem follows_close {m : Mark} (h : close st m = some u) (stack : List Frame) :
    Follows stack u (close (st ++ stack) m) := by
  rcases st with _ | ⟨items | members | ⟨members, key⟩, rest⟩
  · cases h
  · cases m with
    | closeArray => exact follows_complete h stack
    | _ => cases h
  · cases m with
    | closeObject => exact follows_complete h stack
    | _ => cases h
  · cases h

theorem follows_keyed {t : Token} (h : keyed st t = some u) (stack : List Frame) :
    Follows stack u (keyed (st ++ stack) t) := by
  rcases t with m | s | v
  · cases h
  · rcases st with _ | ⟨items | members | ⟨members, key⟩, rest⟩ <;> cases h
    exact Or.inl ⟨rfl, rfl⟩
  · cases h

theorem follows_next (h : next st = some u) (stack : List Frame) :
    Follows stack u (next (st ++ stack)) := by
  rcases st with _ | ⟨items | members | ⟨members, key⟩, rest⟩ <;> cases h
  · exact Or.inl ⟨rfl, rfl⟩
  · exact Or.inl ⟨rfl, rfl⟩

theorem step_item {t : Token} (ht : t ≠ .mark .closeArray) (stack : List Frame)
    (result : Option Json) : step ⟨stack, .item, result⟩ t = value stack t := by
  cases t with
  | mark m =>
    cases m with
    | closeArray => exact absurd rfl ht
    | _ => rfl
  | _ => rfl

theorem step_firstKey {t : Token} (ht : t ≠ .mark .closeObject) (stack : List Frame)
    (result : Option Json) : step ⟨stack, .firstKey, result⟩ t = keyed stack t := by
  cases t with
  | mark m =>
    cases m with
    | closeObject => exact absurd rfl ht
    | _ => rfl
  | _ => rfl

/-- A step that can be made can be made inside a stack. -/
theorem follows_step {s : Building} {t : Token} (hs : s.result = none) (h : s.step t = some u)
    (stack : List Frame) : Follows stack u ((s.inside stack).step t) := by
  rcases s with ⟨st, place, result⟩
  cases place with
  | value => exact follows_value h stack
  | item =>
    by_cases ht : t = .mark .closeArray
    · subst ht
      exact follows_close h stack
    · rw [step_item ht] at h
      rw [inside, step_item ht]
      exact follows_value h stack
  | firstKey =>
    by_cases ht : t = .mark .closeObject
    · subst ht
      exact follows_close h stack
    · rw [step_firstKey ht] at h
      rw [inside, step_firstKey ht]
      exact follows_keyed h stack
  | key => exact follows_keyed h stack
  | colon =>
    cases t with
    | mark m =>
      cases m with
      | colon =>
        cases h
        exact Or.inl ⟨hs, rfl⟩
      | _ => cases h
    | _ => cases h
  | after =>
    cases t with
    | mark m =>
      cases m with
      | comma => exact follows_next h stack
      | _ => exact follows_close h stack
    | _ => cases h

/-- Behind a complete value nothing can stand. -/
theorem step_complete (v : Json) (t : Token) : step ⟨[], .after, some v⟩ t = none := by
  cases t with
  | mark m => cases m <;> rfl
  | text s => rfl
  | scalar w => rfl

/-- Tokens that make a value complete it inside any stack. -/
theorem run_inside {s : Building} (hs : s.result = none) {ts : List Token} {v : Json}
    (h : (s.run ts).bind (·.result) = some v) (stack : List Frame) :
    (s.inside stack).run ts = complete stack v := by
  -- the two machines stay in step until the inner one has its value
  induction ts generalizing s with
  | nil =>
    have hresult : s.result = some v := h
    rw [hs] at hresult
    cases hresult
  | cons t ts ih =>
    rw [run, List.foldlM_cons] at h ⊢
    cases hstep : s.step t with
    | none =>
      rw [hstep] at h
      cases h
    | some u =>
      rw [hstep] at h
      rcases follows_step hs hstep stack with ⟨hu, hnext⟩ | ⟨w, rfl, hnext⟩
      · rw [hnext]
        exact ih hu h
      · rw [hnext]
        cases ts with
        | nil =>
          cases h
          exact bind_pure _
        | cons t' ts =>
          -- a token stands behind the complete value
          have hstuck : (run ⟨[], .after, some w⟩ (t' :: ts)).bind (·.result) = some v := h
          rw [run, List.foldlM_cons, step_complete] at hstuck
          cases hstuck

/-! ## Reading spelled tokens -/

/-- The machine after tokens as they are spelled. -/
def runSpelled (s : Building) (ls : List Lexeme) : Option Building :=
  (ls.mapM Lexeme.token?).bind s.run

theorem runSpelled_cons (s : Building) {l : Lexeme} {t : Token} (hl : l.token? = some t)
    (ls : List Lexeme) : s.runSpelled (l :: ls) = (s.step t).bind (·.runSpelled ls) := by
  rw [runSpelled, List.mapM_cons, hl]
  cases hls : ls.mapM Lexeme.token? with
  | none => cases hstep : s.step t <;> simp [runSpelled, hls]
  | some ts => cases hstep : s.step t <;> simp [runSpelled, hls, run, hstep]

theorem runSpelled_append (s : Building) (ls ls' : List Lexeme) :
    s.runSpelled (ls ++ ls') = (s.runSpelled ls).bind (·.runSpelled ls') := by
  rw [runSpelled, List.mapM_append]
  cases hls : ls.mapM Lexeme.token? with
  | none => simp [runSpelled, hls]
  | some ts =>
    cases hls' : ls'.mapM Lexeme.token? with
    | none => cases hrun : s.run ts <;> simp [runSpelled, hls, hls', hrun]
    | some ts' =>
      simp [runSpelled, hls, hls', run_append]

end Building

/-- The value of tokens as they are spelled. -/
def valueOf? (ls : List Lexeme) : Option Json :=
  (Building.start.runSpelled ls).bind (·.result)

/-- A text denotes the value of what it spells. -/
theorem ofText?_eq_valueOf? {ls : List Lexeme} {cs : List Char} (h : Spells ls cs) :
    ofText? cs = valueOf? ls := by
  rw [ofText?, tokens?_of_spells h, valueOf?, Building.runSpelled, Option.bind_assoc]
  rfl

/-- What makes a value completes it inside any stack. -/
theorem Building.runSpelled_value {ls : List Lexeme} {v : Json} (h : valueOf? ls = some v)
    (stack : List Frame) : runSpelled ⟨stack, .value, none⟩ ls = complete stack v := by
  rw [valueOf?, runSpelled] at h
  rw [runSpelled]
  cases hls : ls.mapM Lexeme.token? with
  | none =>
    rw [hls] at h
    cases h
  | some ts =>
    rw [hls] at h
    exact run_inside (s := start) rfl h stack

/-! ## Objects of fields -/

/-- A field of an object as it is spelled: what stands between the quotes of its key, and the tokens
of its value. -/
structure SpelledField where
  key : List Char
  value : List Lexeme
  name : String
  denoted : Json
  key_denotes : (Lexeme.quoted key).token? = some (.text (some name))
  value_denotes : valueOf? value = some denoted

namespace SpelledField

/-- The member that a field denotes. -/
def member (f : SpelledField) : String × Json :=
  (f.name, f.denoted)

/-- The tokens of a field. -/
def lexemes (f : SpelledField) : List Lexeme :=
  .quoted f.key :: .mark .colon :: f.value

end SpelledField

/-- Fields with commas between them. -/
def fieldsSpelled (fs : List SpelledField) : List Lexeme :=
  [Lexeme.mark .comma].intercalate (fs.map SpelledField.lexemes)

/-- Fields between braces. -/
def objectSpelled (fs : List SpelledField) : List Lexeme :=
  .mark .openObject :: fieldsSpelled fs ++ [.mark .closeObject]

theorem fieldsSpelled_cons_cons (f g : SpelledField) (fs : List SpelledField) :
    fieldsSpelled (f :: g :: fs)
      = f.lexemes ++ .mark .comma :: fieldsSpelled (g :: fs) := by
  simp [fieldsSpelled, List.intercalate_cons_cons]

namespace Building

theorem runSpelled_mark (s : Building) (m : Mark) (ls : List Lexeme) :
    s.runSpelled (.mark m :: ls) = (s.step (.mark m)).bind (·.runSpelled ls) :=
  runSpelled_cons s rfl ls

theorem runSpelled_key (s : Building) (f : SpelledField) (ls : List Lexeme) :
    s.runSpelled (.quoted f.key :: ls) = (s.step (.text (some f.name))).bind (·.runSpelled ls) :=
  runSpelled_cons s f.key_denotes ls

theorem runSpelled_field (f : SpelledField) (done : List (Option String × Json))
    (stack : List Frame) :
    runSpelled ⟨.object done :: stack, .key, none⟩ f.lexemes
      = some ⟨.object (kept f.member :: done) :: stack, .after, none⟩ := by
  have hvalue := runSpelled_value f.value_denotes (.member done (some f.name) :: stack)
  rw [SpelledField.lexemes, runSpelled_key]
  show runSpelled ⟨.member done (some f.name) :: stack, .colon, none⟩ _ = _
  rw [runSpelled_mark]
  exact hvalue

theorem runSpelled_fields (f : SpelledField) (fs : List SpelledField)
    (done : List (Option String × Json)) (stack : List Frame) :
    runSpelled ⟨.object done :: stack, .key, none⟩ (fieldsSpelled (f :: fs))
      = some ⟨.object ((((f :: fs).map SpelledField.member).map kept).reverse ++ done) :: stack,
          .after, none⟩ := by
  induction fs generalizing f done with
  | nil => simpa [fieldsSpelled] using runSpelled_field f done stack
  | cons g fs ih =>
    have hrest := ih g (kept f.member :: done)
    calc runSpelled ⟨.object done :: stack, .key, none⟩ (fieldsSpelled (f :: g :: fs))
        = runSpelled ⟨.object (kept f.member :: done) :: stack, .after, none⟩
            (.mark .comma :: fieldsSpelled (g :: fs)) := by
          rw [fieldsSpelled_cons_cons, runSpelled_append, runSpelled_field, Option.bind_some]
      _ = runSpelled ⟨.object (kept f.member :: done) :: stack, .key, none⟩
            (fieldsSpelled (g :: fs)) := by
          rw [runSpelled_mark]
          rfl
      _ = _ := by
          rw [hrest]
          simp

/-- A key may also stand first in an object. -/
theorem runSpelled_first (f : SpelledField) (fs : List SpelledField) (stack : List Frame) :
    runSpelled ⟨stack, .firstKey, none⟩ (fieldsSpelled (f :: fs))
      = runSpelled ⟨stack, .key, none⟩ (fieldsSpelled (f :: fs)) := by
  have hkey : ∃ ls, fieldsSpelled (f :: fs) = .quoted f.key :: ls := by
    cases fs with
    | nil => exact ⟨_, by simp [fieldsSpelled, SpelledField.lexemes]; rfl⟩
    | cons g fs => exact ⟨_, fieldsSpelled_cons_cons f g fs⟩
  rcases hkey with ⟨ls, hls⟩
  rw [hls, runSpelled_key, runSpelled_key]
  rfl

/-- The end of an object that has been read up to its last field. -/
theorem runSpelled_close (members : List (String × Json)) (stack : List Frame) :
    runSpelled ⟨.object (members.map kept).reverse :: stack, .after, none⟩ [.mark .closeObject]
      = complete stack (.obj members) := by
  have hmembers := ofMembers_kept members
  rw [runSpelled_mark]
  show (complete stack (ofMembers (members.map kept).reverse.reverse)).bind _ = _
  rw [List.reverse_reverse, hmembers]
  exact bind_pure (complete stack (.obj members))

theorem runSpelled_object (fs : List SpelledField) (stack : List Frame) :
    runSpelled ⟨stack, .value, none⟩ (objectSpelled fs)
      = complete stack (.obj (fs.map SpelledField.member)) := by
  have hopen : runSpelled ⟨stack, .value, none⟩ (objectSpelled fs)
      = runSpelled ⟨.object [] :: stack, .firstKey, none⟩
          (fieldsSpelled fs ++ [.mark .closeObject]) :=
    runSpelled_mark _ _ _
  rw [hopen]
  cases fs with
  | nil =>
    show runSpelled ⟨.object [] :: stack, .firstKey, none⟩ [.mark .closeObject] = _
    rw [runSpelled_mark]
    exact bind_pure (complete stack (.obj []))
  | cons f fs =>
    rw [runSpelled_append, runSpelled_first, runSpelled_fields, List.append_nil, Option.bind_some]
    exact runSpelled_close ((f :: fs).map SpelledField.member) stack

end Building

/-- The value of an object that is made of fields, which may in turn be that of a field. -/
theorem valueOf?_object (fs : List SpelledField) :
    valueOf? (objectSpelled fs) = some (.obj (fs.map SpelledField.member)) := by
  have h : Building.start.runSpelled (objectSpelled fs) = _ := Building.runSpelled_object fs []
  rw [valueOf?, h]
  rfl

/-- A text that spells fields between braces denotes the object of their members, in the order of
the text. -/
theorem ofText?_object {fs : List SpelledField} {cs : List Char}
    (h : Spells (objectSpelled fs) cs) :
    ofText? cs = some (.obj (fs.map SpelledField.member)) := by
  rw [ofText?_eq_valueOf? h, valueOf?_object]

end TurnTaking.Json
