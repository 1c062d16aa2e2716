import TurnTaking.Text.Blank
/-!
# Sets of words

A set of words is kept as its list in strictly rising order, so that equal sets are equal lists.

The main statements are `mem_ofList`, that a set made from a list has the words of the list, and
`ext_mem`, that sets with the same words are equal.
-/

namespace TurnTaking.Text

/-- A word, or any other short text. -/
abbrev Word := List Char

/-! ## The order of words -/

/-- Whether a word comes before another one: by the first character in which they differ, and
otherwise because it is shorter. -/
def precedes : Word → Word → Bool
  | _, [] => false
  | [], _ :: _ => true
  | c :: cs, d :: ds =>
    decide (c.toNat < d.toNat) || (decide (c.toNat = d.toNat) && precedes cs ds)

theorem precedes_irrefl (u : Word) : precedes u u = false := by
  induction u with
  | nil => rfl
  | cons c cs ih => simp [precedes, ih]

theorem precedes_trans {u v w : Word} (huv : precedes u v = true) (hvw : precedes v w = true) :
    precedes u w = true := by
  induction u generalizing v w with
  | nil =>
    cases v with
    | nil => simp [precedes] at huv
    | cons d ds =>
      cases w with
      | nil => simp [precedes] at hvw
      | cons e es => rfl
  | cons c cs ih =>
    cases v with
    | nil => simp [precedes] at huv
    | cons d ds =>
      cases w with
      | nil => simp [precedes] at hvw
      | cons e es =>
        simp only [precedes, Bool.or_eq_true, Bool.and_eq_true, decide_eq_true_eq] at huv hvw ⊢
        rcases huv with hcd | ⟨hcd, hr⟩
        · rcases hvw with hde | ⟨hde, -⟩
          · exact Or.inl (by omega)
          · exact Or.inl (by omega)
        · rcases hvw with hde | ⟨hde, hs⟩
          · exact Or.inl (by omega)
          · exact Or.inr ⟨by omega, ih hr hs⟩

/-- Of two different words one comes before the other. -/
theorem precedes_of_not {u v : Word} (h : precedes u v = false) (hne : u ≠ v) :
    precedes v u = true := by
  induction u generalizing v with
  | nil =>
    cases v with
    | nil => exact absurd rfl hne
    | cons d ds => simp [precedes] at h
  | cons c cs ih =>
    cases v with
    | nil => rfl
    | cons d ds =>
      simp only [precedes, Bool.or_eq_false_iff, Bool.and_eq_false_iff, decide_eq_false_iff_not]
        at h
      simp only [precedes, Bool.or_eq_true, Bool.and_eq_true, decide_eq_true_eq]
      by_cases hcd : c.toNat = d.toNat
      · have hc : c = d := Char.toNat_inj.1 hcd
        subst hc
        refine Or.inr ⟨rfl, ih ?_ fun heq => hne (by rw [heq])⟩
        rcases h.2 with hn | hp
        · exact absurd rfl hn
        · exact hp
      · exact Or.inl (by omega)

/-- Whether every word of a list comes before all later ones. -/
def Rising (ws : List Word) : Prop :=
  ws.Pairwise fun u v => precedes u v = true

/-! ## Sets -/

/-- A set of words. -/
structure WordSet where
  /-- The words in rising order. -/
  words : List Word
  rising : Rising words
deriving DecidableEq

namespace WordSet

/-- A word put into its place in a rising list. -/
def place (w : Word) : List Word → List Word
  | [] => [w]
  | v :: vs =>
    if precedes w v then w :: v :: vs else if w = v then v :: vs else v :: place w vs

theorem mem_place {w u : Word} {ws : List Word} : u ∈ place w ws ↔ u = w ∨ u ∈ ws := by
  induction ws with
  | nil => simp [place]
  | cons v vs ih =>
    rw [place]
    split
    · simp
    · split
      · rename_i h
        simp [h]
      · simp only [List.mem_cons, ih]
        constructor
        · rintro (h | h | h)
          · exact Or.inr (Or.inl h)
          · exact Or.inl h
          · exact Or.inr (Or.inr h)
        · rintro (h | h | h)
          · exact Or.inr (Or.inl h)
          · exact Or.inl h
          · exact Or.inr (Or.inr h)

theorem rising_place (w : Word) {ws : List Word} (h : Rising ws) : Rising (place w ws) := by
  induction ws with
  | nil => simp [place, Rising]
  | cons v vs ih =>
    obtain ⟨hv, hvs⟩ := List.pairwise_cons.1 h
    rw [place]
    split
    · rename_i hlt
      refine List.pairwise_cons.2 ⟨fun u hu => ?_, h⟩
      rcases List.mem_cons.1 hu with rfl | hu
      · exact hlt
      · exact precedes_trans hlt (hv u hu)
    · split
      · exact h
      · rename_i hnlt hne
        refine List.pairwise_cons.2 ⟨fun u hu => ?_, ih hvs⟩
        rcases mem_place.1 hu with rfl | hu
        · exact precedes_of_not (by simpa using hnlt) hne
        · exact hv u hu

/-- No words. -/
def empty : WordSet :=
  ⟨[], List.Pairwise.nil⟩

instance : Inhabited WordSet :=
  ⟨empty⟩

instance : Membership Word WordSet :=
  ⟨fun s w => w ∈ s.words⟩

/-- A set with one more word. -/
def insert (w : Word) (s : WordSet) : WordSet :=
  ⟨place w s.words, rising_place w s.rising⟩

/-- The set of the words of a list. -/
def ofList (ws : List Word) : WordSet :=
  ws.foldr insert empty

/-- Whether a word belongs to a set. -/
def has (s : WordSet) (w : Word) : Bool :=
  s.words.contains w

/-- The number of words. -/
def size (s : WordSet) : Nat :=
  s.words.length

theorem has_iff {s : WordSet} {w : Word} : s.has w = true ↔ w ∈ s := by
  simp [has, Membership.mem]

theorem mem_insert {w u : Word} {s : WordSet} : u ∈ s.insert w ↔ u = w ∨ u ∈ s :=
  mem_place

theorem mem_ofList {w : Word} {ws : List Word} : w ∈ ofList ws ↔ w ∈ ws := by
  induction ws with
  | nil => exact Iff.rfl
  | cons v vs ih =>
    rw [show ofList (v :: vs) = (ofList vs).insert v from rfl, mem_insert, ih]
    simp

/-- Rising lists with the same words are equal. -/
theorem eq_of_rising {s t : List Word} (hs : Rising s) (ht : Rising t)
    (h : ∀ w, w ∈ s ↔ w ∈ t) : s = t := by
  induction s generalizing t with
  | nil =>
    cases t with
    | nil => rfl
    | cons v vs => exact absurd ((h v).2 (by simp)) (by simp)
  | cons u us ih =>
    cases t with
    | nil => exact absurd ((h u).1 (by simp)) (by simp)
    | cons v vs =>
      obtain ⟨hu, hus⟩ := List.pairwise_cons.1 hs
      obtain ⟨hv, hvs⟩ := List.pairwise_cons.1 ht
      have huv : u = v := by
        rcases List.mem_cons.1 ((h u).1 (by simp)) with heq | hmem
        · exact heq
        · rcases List.mem_cons.1 ((h v).2 (by simp)) with heq | hmem'
          · exact heq.symm
          · exact absurd (precedes_trans (hu v hmem') (hv u hmem)) (by simp [precedes_irrefl])
      subst huv
      congr 1
      refine ih hus hvs fun w => ?_
      have hw := h w
      simp only [List.mem_cons] at hw
      constructor
      · intro hm
        rcases hw.1 (Or.inr hm) with rfl | hm'
        · exact absurd (hu w hm) (by simp [precedes_irrefl])
        · exact hm'
      · intro hm
        rcases hw.2 (Or.inr hm) with rfl | hm'
        · exact absurd (hv w hm) (by simp [precedes_irrefl])
        · exact hm'

theorem ext_mem {s t : WordSet} (h : ∀ w, w ∈ s ↔ w ∈ t) : s = t := by
  cases s
  cases t
  congr 1
  exact eq_of_rising (by assumption) (by assumption) h

end WordSet

end TurnTaking.Text
