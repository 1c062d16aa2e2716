import TurnTaking.Text.Ranges
/-!
# Blanks, words and lines

The blank characters, and the ways in which a text is cut: `strip` takes characters off both
ends, `splitWhere` cuts at every character of a kind, `words` keeps the maximal runs without a
blank, `lines` the lines of a text.

The main statement is `splitWhere_free`: no piece holds a character at which the text is cut.
-/

namespace TurnTaking.Text

/-! ## Blanks -/

/-- The code points of the blank characters. -/
def blankRanges : Ranges :=
  [(0x9, 0xD), (0x20, 0x20), (0x85, 0x85), (0xA0, 0xA0), (0x1680, 0x1680), (0x2000, 0x200A),
   (0x2028, 0x2029), (0x202F, 0x202F), (0x205F, 0x205F), (0x3000, 0x3000)]

/-- A blank: a space of any width, a tab, or an end of line. -/
def isBlank (c : Char) : Bool :=
  blankRanges.has c

/-! ## Taking characters off the ends -/

/-- The text without its leading characters of a kind. -/
def stripStart (p : Char → Bool) (s : List Char) : List Char :=
  s.dropWhile p

/-- The text without its trailing characters of a kind. -/
def stripEnd (p : Char → Bool) (s : List Char) : List Char :=
  (s.reverse.dropWhile p).reverse

/-- The text without the characters of a kind at either end. -/
def strip (p : Char → Bool) (s : List Char) : List Char :=
  stripEnd p (stripStart p s)

/-- The text without the blanks at either end. -/
def trim (s : List Char) : List Char :=
  strip isBlank s

/-! ## Cutting -/

/-- The pieces of a text between the characters of a kind; there is one more piece than there
are such characters. -/
def splitWhere (p : Char → Bool) : List Char → List (List Char)
  | [] => [[]]
  | c :: cs =>
    if p c then [] :: splitWhere p cs
    else match splitWhere p cs with
      | [] => [[c]]
      | piece :: rest => (c :: piece) :: rest

/-- The maximal runs of characters that are not blank. -/
def words (s : List Char) : List (List Char) :=
  (splitWhere isBlank s).filter (! ·.isEmpty)

/-- A line without the carriage return that stood before its line feed. -/
def dropReturn (line : List Char) : List Char :=
  if line.getLast? = some '\r' then line.dropLast else line

/-- The lines of a text. A line feed ends a line, together with a carriage return before it;
what follows the last line feed is a line if it is not empty. -/
def lines (s : List Char) : List (List Char) :=
  let pieces := splitWhere (· == '\n') s
  pieces.dropLast.map dropReturn ++ (pieces.getLast?.toList.filter (! ·.isEmpty))

/-- No piece holds a character at which the text is cut. -/
theorem splitWhere_free (p : Char → Bool) (s : List Char) :
    ∀ piece ∈ splitWhere p s, ∀ c ∈ piece, p c = false := by
  induction s with
  | nil => simp [splitWhere]
  | cons c cs ih =>
    rw [splitWhere]
    split
    · simpa using ih
    · rename_i hc
      split
      · simpa using hc
      · rename_i piece rest heq
        rw [heq] at ih
        intro q hq
        rcases List.mem_cons.1 hq with rfl | hq
        · intro d hd
          rcases List.mem_cons.1 hd with rfl | hd
          · simpa using hc
          · exact ih piece (by simp) d hd
        · exact ih q (by simp [hq])

/-- No word holds a blank. -/
theorem words_free (s : List Char) : ∀ w ∈ words s, ∀ c ∈ w, isBlank c = false := fun w hw =>
  splitWhere_free isBlank s w (List.mem_filter.1 hw).1

end TurnTaking.Text
