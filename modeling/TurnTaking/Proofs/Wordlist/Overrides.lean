import TurnTaking.Proofs.Wordlist.NormalForm
/-!
# Word lists that are written as a text

An override that is not empty stands for the normal forms of the fragments between its commas. A
comma has no case and is no blank, so a normal form holds a comma only if the fragment did, and
that is never so. Two overrides can thus be joined by a comma, and the entries of a list can be
written as an override again.

The main statement is `ofOverride_compose`. All of it comes from `mem_ofOverride`, which says what
an override stands for without its default.
-/

namespace TurnTaking

open Text

/-! ## Commas -/

/-- Whether a character ends a fragment of an override. -/
def isComma (c : Char) : Bool :=
  c == ','

/-- A comma has no case. -/
theorem caseless_isComma : Caseless isComma := by
  have hpoint : isComma = Ranges.has [(','.toNat, ','.toNat)] := by
    funext c
    have hsingle : [','].contains c = isComma c := by simp [isComma, Bool.beq_eq_decide_eq]
    exact hsingle.symm.trans (Ranges.has_points [','] c).symm
  rw [hpoint]
  exact Ranges.caseless (by decide +kernel)

/-- A normal form has a comma only if the word has one. -/
theorem normalForm_free_of_comma {w : Word} (h : ∀ c ∈ w, isComma c = false) :
    ∀ c ∈ normalForm w, isComma c = false := by
  apply caseless_isComma.free_lower
  obtain ⟨before, after, heq, -, -⟩ := exists_strip isBlank w
  intro c hc
  apply h
  rw [heq]
  exact List.mem_append_left after (List.mem_append_right before hc)

/-- Words with commas between them are told apart by these. -/
theorem splitWhere_intercalate {ws : List Word} (hne : ws ≠ [])
    (hfree : ∀ w ∈ ws, ∀ c ∈ w, isComma c = false) :
    splitWhere isComma ([','].intercalate ws) = ws := by
  rw [splitWhere_eq_splitOnP]
  refine List.splitOn_intercalate ',' ?_ hne
  intro w hw hcomma
  exact absurd (hfree w hw ',' hcomma) (by decide)

namespace Text.WordSet

/-- The words of two sets. -/
def union (s t : WordSet) : WordSet :=
  ofList (s.words ++ t.words)

theorem mem_union {w : Word} {s t : WordSet} : w ∈ s.union t ↔ w ∈ s ∨ w ∈ t := by
  rw [union, mem_ofList, List.mem_append]
  exact Iff.rfl

end Text.WordSet

namespace Wordlist

/-- The words of two lists. -/
def union (l k : Wordlist) : Wordlist :=
  ⟨l.entries.union k.entries⟩

/-- The fragments of an override. -/
def fragmentsOf (text : String) : List Word :=
  splitWhere isComma text.toList

/-- Words as an override, with commas between them. -/
def commaSeparated (ws : List Word) : String :=
  ",".intercalate (ws.map String.ofList)

theorem ext_entries {l k : Wordlist} (h : ∀ w, w ∈ l.entries ↔ w ∈ k.entries) : l = k := by
  cases l
  cases k
  exact congrArg mk (WordSet.ext_mem h)

/-- An override that is not empty stands for the normal forms of its fragments, whatever the
default is. -/
theorem mem_ofOverride {text : String} (hne : text ≠ "") {default : List String} {w : Word} :
    w ∈ (ofOverride (some text) default).entries ↔
      w ≠ [] ∧ w ∈ (fragmentsOf text).map normalForm := by
  have hfragments : (Source.written (some text) default).fragments = fragmentsOf text := if_neg hne
  rw [List.mem_map, ← hfragments]
  exact @Source.mem_entries_iff (.written (some text) default) w

/-- A comma joins two overrides. -/
theorem fragmentsOf_append (a b : String) :
    fragmentsOf (a ++ "," ++ b) = fragmentsOf a ++ fragmentsOf b := by
  have heq : (a ++ "," ++ b).toList = a.toList ++ ',' :: b.toList := by simp
  rw [fragmentsOf, heq, splitWhere_append_cons rfl]
  rfl

/-- No entry of an override has a comma. -/
theorem free_of_mem_ofOverride {text : String} (hne : text ≠ "") {default : List String} {w : Word}
    (hw : w ∈ (ofOverride (some text) default).entries) : ∀ c ∈ w, isComma c = false := by
  obtain ⟨-, hnormal⟩ := (mem_ofOverride hne).1 hw
  rcases List.mem_map.1 hnormal with ⟨f, hf, rfl⟩
  exact normalForm_free_of_comma (splitWhere_free isComma text.toList f hf)

theorem fragmentsOf_commaSeparated {ws : List Word} (hne : ws ≠ [])
    (hfree : ∀ w ∈ ws, ∀ c ∈ w, isComma c = false) : fragmentsOf (commaSeparated ws) = ws := by
  have heq : (commaSeparated ws).toList = [','].intercalate ws := by
    rw [commaSeparated, String.toList_intercalate, List.map_map]
    simp [Function.comp_def]
  rw [fragmentsOf, heq, splitWhere_intercalate hne hfree]

/-- Words with commas between them are an override that is not empty. -/
theorem commaSeparated_ne_empty {ws : List Word} (hne : ws ≠ [])
    (hwords : ∀ w ∈ ws, w ≠ []) (hfree : ∀ w ∈ ws, ∀ c ∈ w, isComma c = false) :
    commaSeparated ws ≠ "" := by
  intro hempty
  have hfragments := fragmentsOf_commaSeparated hne hfree
  rw [hempty] at hfragments
  -- the empty text has one fragment, and that is empty
  exact hwords [] (hfragments ▸ List.mem_singleton_self []) rfl

/-! ## What overrides stand for -/

section

variable {a b : String} {default : List String}

/-- Two overrides that are joined by a comma stand for the words of both. -/
theorem ofOverride_append (ha : a ≠ "") (hb : b ≠ "") :
    ofOverride (some (a ++ "," ++ b)) default =
      (ofOverride (some a) default).union (ofOverride (some b) default) := by
  have hboth : a ++ "," ++ b ≠ "" := by
    intro hempty
    have hlist := congrArg String.toList hempty
    simp at hlist
  apply ext_entries
  intro w
  rw [union, WordSet.mem_union, mem_ofOverride hboth, mem_ofOverride ha, mem_ofOverride hb,
    fragmentsOf_append, List.map_append, List.mem_append]
  exact and_or_left

/-- Overrides stand for the same list if their fragments have the same normal forms. -/
theorem ofOverride_congr (ha : a ≠ "") (hb : b ≠ "")
    (h : ∀ w, w ≠ [] →
      (w ∈ (fragmentsOf a).map normalForm ↔ w ∈ (fragmentsOf b).map normalForm))
    (default' : List String) : ofOverride (some a) default = ofOverride (some b) default' := by
  apply ext_entries
  intro w
  rw [mem_ofOverride ha, mem_ofOverride hb]
  exact and_congr_right (h w)

/-- The entries of an override can be written as an override again. -/
theorem ofOverride_commaSeparated (ha : a ≠ "") {order : List Word} (hne : order ≠ [])
    (horder : ∀ w, w ∈ order ↔ w ∈ (ofOverride (some a) default).entries)
    (default' : List String) :
    ofOverride (some (commaSeparated order)) default' = ofOverride (some a) default := by
  have hwords : ∀ w ∈ order, w ≠ [] := by
    intro w hw
    exact ((mem_ofOverride ha).1 ((horder w).1 hw)).1
  have hfree : ∀ w ∈ order, ∀ c ∈ w, isComma c = false := by
    intro w hw
    exact free_of_mem_ofOverride ha ((horder w).1 hw)
  -- an entry is its own normal form, so what is read is what was written
  have hnormal : order.map normalForm = order := by
    refine (List.map_congr_left ?_).trans (List.map_id order)
    intro w hw
    exact @Source.normalForm_of_mem (.written (some a) default) w ((horder w).1 hw)
  apply ext_entries
  intro w
  rw [mem_ofOverride (commaSeparated_ne_empty hne hwords hfree),
    fragmentsOf_commaSeparated hne hfree, hnormal, ← horder w]
  constructor
  · rintro ⟨-, hw⟩
    exact hw
  · intro hw
    exact ⟨hwords w hw, hw⟩

end

/-- Two overrides that are not empty and are joined by a comma stand for the words of both, and
overrides stand for the same list if their fragments have the same normal forms, those of nothing
but blanks aside; so the order of the fragments, repeated ones, their case and empty ones are of no
account. No entry has a comma. If there are entries, they can be written as an override in any
order, and it stands for the same list. None of this depends on a default. -/
theorem ofOverride_compose {a b : String} (ha : a ≠ "") (hb : b ≠ "") (default : List String) :
    ofOverride (some (a ++ "," ++ b)) default =
      (ofOverride (some a) default).union (ofOverride (some b) default) ∧
    ((∀ w, w ≠ [] → (w ∈ (fragmentsOf a).map normalForm ↔ w ∈ (fragmentsOf b).map normalForm)) →
      ∀ default', ofOverride (some a) default = ofOverride (some b) default') ∧
    (∀ w ∈ (ofOverride (some a) default).entries, ',' ∉ w) ∧
    ((ofOverride (some a) default).size ≠ 0 →
      ∀ order : List Word, order.Perm (ofOverride (some a) default).entries.words →
        ∀ default', ofOverride (some (commaSeparated order)) default' =
          ofOverride (some a) default) := by
  refine ⟨ofOverride_append ha hb, ofOverride_congr ha hb, ?_, ?_⟩
  · intro w hw hcomma
    exact absurd (free_of_mem_ofOverride ha hw ',' hcomma) (by decide)
  · intro hsize order hperm default'
    have hne : order ≠ [] := by
      rintro rfl
      exact hsize hperm.symm.length_eq
    exact ofOverride_commaSeparated ha hne (fun w => hperm.mem_iff) default'

/-- Two overrides with an empty fragment, a repeated one and two spellings of one word. -/
theorem ofOverride_compose_spellings :
    let a := " ΟΔΟΣ,, stop"
    let b := "Stop\t,οδος, STOP ,"
    a ≠ "" ∧ b ≠ "" ∧
      ofOverride (some (a ++ "," ++ b)) ["x,y"] =
        (ofOverride (some a) ["x,y"]).union (ofOverride (some b) ["x,y"]) ∧
      ofOverride (some a) ["x,y"] = ofOverride (some b) [] ∧
      ofOverride (some (commaSeparated ["οδος".toList, "stop".toList])) ["wait"] =
        ofOverride (some a) ["x,y"] := by
  intro a b
  have ha : a ≠ "" := by decide
  have hb : b ≠ "" := by decide
  obtain ⟨hunion, hsame, -, hagain⟩ := ofOverride_compose ha hb ["x,y"]
  refine ⟨ha, hb, hunion, ?_, ?_⟩
  · apply hsame
    have hleft : (fragmentsOf a).map normalForm = ["οδος".toList, [], "stop".toList] := by
      decide +kernel
    have hright : (fragmentsOf b).map normalForm =
        ["stop".toList, "οδος".toList, "stop".toList, []] := by
      decide +kernel
    intro w hne
    rw [hleft, hright]
    simp [hne, or_comm]
  · apply hagain
    · decide +kernel
    · decide +kernel

end Wordlist

end TurnTaking
