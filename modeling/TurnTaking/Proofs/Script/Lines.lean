import Mathlib.Logic.Relation
import TurnTaking.Proofs.Text.Pieces
import TurnTaking.Script
/-!
# The lines of a script

A line of a script holds an entry unless it is blank or a comment. What stands in the lines with an
entry, blanks at their ends aside, does not depend on how a text is laid out: on blank lines and
comments between them, on blanks around them, and on how lines end.

The main statement is `contents_relaid`: laying out a text in another way leaves its contents as
they are.
-/

namespace TurnTaking

open Text

namespace Script

/-! ## Lines with an entry -/

/-- A line that holds an entry: its number in the text, and what stands in it without the blanks
at its ends. -/
structure Line where
  number : Nat
  content : List Char

/-- The lines that hold an entry, among lines that are numbered from `number` on. -/
def linesFrom (number : Nat) (raws : List (List Char)) : List Line :=
  ((raws.zipIdx number).map fun r => ⟨r.2, trim r.1⟩).filter fun l => isEntry l.content

/-- The lines of a text that hold an entry; the first line of the text has the number one. -/
def entryLines (text : String) : List Line :=
  linesFrom 1 (lines text.toList)

/-- What stands in the lines that hold an entry. -/
def contents (raws : List (List Char)) : List (List Char) :=
  (raws.map trim).filter isEntry

theorem linesFrom_of_entry {raw : List Char} (h : isEntry (trim raw) = true) (number : Nat)
    (rest : List (List Char)) :
    linesFrom number (raw :: rest) = ⟨number, trim raw⟩ :: linesFrom (number + 1) rest := by
  simp [linesFrom, h]

theorem linesFrom_of_not_entry {raw : List Char} (h : isEntry (trim raw) = false) (number : Nat)
    (rest : List (List Char)) : linesFrom number (raw :: rest) = linesFrom (number + 1) rest := by
  simp [linesFrom, h]

/-! ## Contents -/

theorem contents_append (raws raws' : List (List Char)) :
    contents (raws ++ raws') = contents raws ++ contents raws' := by
  rw [contents, List.map_append, List.filter_append]
  rfl

theorem contents_of_entry {raw : List Char} (h : isEntry (trim raw) = true)
    (rest : List (List Char)) : contents (raw :: rest) = trim raw :: contents rest := by
  simp [contents, h]

theorem contents_of_not_entry {raw : List Char} (h : isEntry (trim raw) = false)
    (rest : List (List Char)) : contents (raw :: rest) = contents rest := by
  simp [contents, h]

/-- Whether a character ends a line. -/
def endsLine (c : Char) : Bool :=
  c == '\n'

/-- The contents of a text. -/
def contentsOf (s : List Char) : List (List Char) :=
  contents (splitWhere endsLine s)

theorem trim_dropReturn (line : List Char) : trim (dropReturn line) = trim line := by
  rw [dropReturn]
  split
  · rename_i hlast
    have hblank : ∀ c ∈ ['\r'], isBlank c = true := by
      intro c hc
      rw [List.mem_singleton.1 hc]
      decide
    conv_rhs => rw [← List.dropLast_append_getLast? '\r' hlast]
    exact (strip_append_right hblank).symm
  · rfl

/-- A carriage return at the end of a line and an empty last line are of no account. -/
theorem contents_lines (s : List Char) : contents (lines s) = contentsOf s := by
  rcases List.eq_nil_or_concat (splitWhere endsLine s) with hnil | ⟨init, last, heq⟩
  · exact absurd hnil (splitWhere_ne_nil endsLine s)
  rw [List.concat_eq_append] at heq
  have hlines : lines s = init.map dropReturn ++ [last].filter (! ·.isEmpty) := by
    rw [lines, show splitWhere (· == '\n') s = init ++ [last] from heq]
    simp
  have hinit : contents (init.map dropReturn) = contents init := by
    simp only [contents, List.map_map, Function.comp_def, trim_dropReturn]
  rw [hlines, contents_append, hinit, contentsOf, heq, contents_append]
  cases last with
  | nil => rfl
  | cons c cs => rfl

/-! ## Laying out a text -/

/-- A line end divides the contents of a text. -/
theorem contentsOf_append_cons (s t : List Char) :
    contentsOf (s ++ '\n' :: t) = contentsOf s ++ contentsOf t := by
  rw [contentsOf, splitWhere_append_cons rfl, contents_append]
  rfl

/-- So does the start of a line. -/
theorem contentsOf_append_of_start {before : List Char} (h : ∀ c ∈ before.getLast?, c = '\n')
    (t : List Char) : contentsOf (before ++ t) = contentsOf before ++ contentsOf t := by
  rcases List.eq_nil_or_concat before with rfl | ⟨init, c, rfl⟩
  · rfl
  · have hc : c = '\n' := h c (by simp)
    have hinit : contentsOf (init ++ ['\n']) = contentsOf init :=
      (contentsOf_append_cons init []).trans (List.append_nil _)
    rw [hc, List.concat_eq_append, hinit, List.append_assoc]
    exact contentsOf_append_cons init t

/-- So does the end of a line. -/
theorem contentsOf_append_of_end {after : List Char} (h : ∀ c ∈ after.head?, c = '\n')
    (s : List Char) : contentsOf (s ++ after) = contentsOf s ++ contentsOf after := by
  cases after with
  | nil =>
    rw [List.append_nil]
    exact (List.append_nil _).symm
  | cons c after =>
    have hc : c = '\n' := h c rfl
    have hafter : contentsOf ('\n' :: after) = contentsOf after := contentsOf_append_cons [] after
    rw [hc, hafter]
    exact contentsOf_append_cons s after

/-- The only line of a text without a line end. -/
theorem contentsOf_of_free {line : List Char} (h : ∀ c ∈ line, endsLine c = false) :
    contentsOf line = contents [line] := by
  rw [contentsOf, splitWhere_of_free h]

/-- A blank or comment line has no contents. -/
theorem contentsOf_idle {line : List Char} (hline : '\n' ∉ line)
    (hidle : isEntry (trim line) = false) : contentsOf line = [] := by
  have hfree : ∀ c ∈ line, endsLine c = false := by
    intro c hc
    rw [endsLine, beq_eq_false_iff_ne]
    rintro rfl
    exact hline hc
  rw [contentsOf_of_free hfree, contents_of_not_entry hidle]
  rfl

/-- Lines that differ in blanks at their ends have the same contents. -/
theorem contents_congr {line line' : List Char} (h : trim line' = trim line)
    (rest : List (List Char)) : contents (line' :: rest) = contents (line :: rest) := by
  rw [contents, contents, List.map_cons, List.map_cons, h]

/-- A blank before a text belongs to the first line, if it is no line end. -/
theorem contentsOf_cons {c : Char} (hblank : isBlank c = true) (hend : c ≠ '\n') (s : List Char) :
    contentsOf (c :: s) = contentsOf s := by
  have hc : ¬ endsLine c = true := by simpa [endsLine] using hend
  have hkind : ∀ d ∈ [c], isBlank d = true := by simpa using hblank
  have htrim : ∀ line, trim ([c] ++ line) = trim line := fun line => strip_append_left hkind
  rcases List.exists_cons_of_ne_nil (splitWhere_ne_nil endsLine s) with ⟨line, rest, heq⟩
  rw [contentsOf, contentsOf, splitWhere, if_neg hc, heq]
  exact contents_congr (htrim line) rest

/-- A blank after a text belongs to the last line, if it is no line end. -/
theorem contentsOf_snoc {c : Char} (hblank : isBlank c = true) (hend : c ≠ '\n') (s : List Char) :
    contentsOf (s ++ [c]) = contentsOf s := by
  induction s using cut_induction (p := endsLine) with
  | whole s hs =>
    have hfree : ∀ d ∈ s ++ [c], endsLine d = false := by
      intro d hd
      rcases List.mem_append.1 hd with hd | hd
      · exact hs d hd
      · rw [List.mem_singleton.1 hd]
        simpa [endsLine] using hend
    rw [contentsOf_of_free hfree, contentsOf_of_free hs]
    exact contents_congr (strip_append_right (by simpa using hblank)) []
  | cut s d t hs hd ih =>
    have hd : d = '\n' := by simpa [endsLine] using hd
    rw [hd, List.append_assoc, List.cons_append, contentsOf_append_cons, contentsOf_append_cons, ih]

/-- The ways in which a text can be laid out with more room. -/
inductive Relaid : List Char → List Char → Prop where
  /-- One more blank or comment line, before a line or at the end. -/
  | line {before line after : List Char} (hstart : ∀ c ∈ before.getLast?, c = '\n')
      (hline : '\n' ∉ line) (hidle : isEntry (trim line) = false) :
      Relaid (before ++ after) (before ++ (line ++ '\n' :: after))
  /-- One more blank or comment line after the last line. -/
  | lastLine {text line : List Char} (hline : '\n' ∉ line) (hidle : isEntry (trim line) = false) :
      Relaid text (text ++ '\n' :: line)
  /-- One more blank at the start of a line. -/
  | start {before after : List Char} {c : Char} (hstart : ∀ d ∈ before.getLast?, d = '\n')
      (hblank : isBlank c = true) (hend : c ≠ '\n') :
      Relaid (before ++ after) (before ++ c :: after)
  /-- One more blank at the end of a line, such as a carriage return before the line feed. -/
  | finish {before after : List Char} {c : Char} (hfinish : ∀ d ∈ after.head?, d = '\n')
      (hblank : isBlank c = true) (hend : c ≠ '\n') :
      Relaid (before ++ after) (before ++ c :: after)

/-- Laying out a text in another way leaves its contents as they are. -/
theorem contentsOf_relaid {s t : List Char} (h : Relaid s t) : contentsOf t = contentsOf s := by
  cases h with
  | @line before line after hstart hline hidle =>
    rw [contentsOf_append_of_start hstart, contentsOf_append_of_start hstart,
      contentsOf_append_cons, contentsOf_idle hline hidle]
    rfl
  | @lastLine text line hline hidle =>
    rw [contentsOf_append_cons, contentsOf_idle hline hidle, List.append_nil]
  | @start before after c hstart hblank hend =>
    rw [contentsOf_append_of_start hstart, contentsOf_append_of_start hstart,
      contentsOf_cons hblank hend]
  | @finish before after c hfinish hblank hend =>
    have heq : before ++ c :: after = before ++ [c] ++ after := by simp
    rw [heq, contentsOf_append_of_end hfinish, contentsOf_append_of_end hfinish,
      contentsOf_snoc hblank hend]

theorem contents_relaid {s t : List Char} (h : Relation.ReflTransGen Relaid s t) :
    contents (lines t) = contents (lines s) := by
  rw [contents_lines, contents_lines]
  induction h with
  | refl => rfl
  | tail _ hlast ih => exact (contentsOf_relaid hlast).trans ih

end Script

end TurnTaking
