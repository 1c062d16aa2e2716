import Mathlib.Data.Nat.Basic
import TurnTaking.Json.Print
import TurnTaking.Json.Token
/-!
# Reading quoted texts back

A text is written between quotes one character at a time, and read in three passes: the machine
finds the closing quote, the escapes are undone, and halves of pairs are joined. Written text
holds no halves, since only the control characters are given by number.

The main statement is `run_quoted`: after a quoted text the machine has the text as its last
token.
-/

namespace TurnTaking.Json

/-! ## Undoing the escapes -/

/-- What a character is read as once it is written: the control characters without an escape of
their own are given by number. -/
def pieceOf (c : Char) : Piece :=
  if c.toNat < 0x20 ∧ c ∉ ['\x08', '\x0c', '\n', '\r', '\t'] then .unit c.toNat else .char c

theorem pieces?_short {e : Char} (he : e ≠ 'u') (rest : List Char) :
    pieces? ('\\' :: e :: rest)
      = (escapeOf? e).bind fun c => (pieces? rest).map (.char c :: ·) := by
  rw [pieces?.eq_3 _ _ (fun _ _ _ _ _ hu _ => he hu)]
  cases escapeOf? e with
  | none => rfl
  | some c => cases pieces? rest <;> rfl

theorem pieces?_plain {c : Char} (hc : c ≠ '\\') (rest : List Char) :
    pieces? (c :: rest) = (pieces? rest).map (.char c :: ·) := by
  rw [pieces?.eq_4 _ _ (fun _ _ _ _ _ hs _ => hc hs) (fun _ _ hs _ => hc hs), if_neg hc]
  cases pieces? rest <;> rfl

theorem hexUnit?_control :
    ∀ n < 0x20, hexUnit? '0' '0' (Nat.digitChar (n / 16)) (Nat.digitChar (n % 16)) = some n := by
  decide

theorem pieces?_control {n : Nat} (hn : n < 0x20) (rest : List Char) :
    pieces? ('\\' :: 'u' :: '0' :: '0' :: Nat.digitChar (n / 16) :: Nat.digitChar (n % 16) :: rest)
      = (pieces? rest).map (.unit n :: ·) := by
  rw [pieces?, hexUnit?_control n hn]
  cases pieces? rest <;> rfl

/-- One written character is read as one part. -/
theorem pieces?_escape (c : Char) (rest : List Char) :
    pieces? (escape c ++ rest) = (pieces? rest).map (pieceOf c :: ·) := by
  unfold escape
  split
  case h_8 _ hquote hslash hb hf hn hr ht =>
    have hshort : c ∉ ['\x08', '\x0c', '\n', '\r', '\t'] := by
      simp only [List.mem_cons, List.not_mem_nil, or_false, not_or]
      exact ⟨hb, hf, hn, hr, ht⟩
    by_cases hc : c.toNat < 0x20
    · have hpiece : pieceOf c = .unit c.toNat :=
        if_pos ⟨hc, hshort⟩
      rw [if_pos hc, hpiece]
      exact pieces?_control hc rest
    · have hpiece : pieceOf c = .char c :=
        if_neg fun h => hc h.1
      rw [if_neg hc, hpiece]
      exact pieces?_plain hslash rest
  all_goals exact pieces?_short (by decide) rest

theorem pieces?_flatMap_escape (cs : List Char) :
    pieces? (cs.flatMap escape) = some (cs.map pieceOf) := by
  induction cs with
  | nil => rfl
  | cons c cs ih => rw [List.flatMap_cons, pieces?_escape, ih, List.map_cons, Option.map_some]

/-! ## Joining the parts -/

/-- Sixteen bits below the halves of pairs are a character of their own. -/
theorem joinPieces?_unit {n : Nat} (hn : n < 0xD800) (rest : List Piece) :
    joinPieces? (.unit n :: rest) = (joinPieces? rest).map (Char.ofNat n :: ·) := by
  have hhigh : isHighHalf n = false := by
    simp only [isHighHalf, Bool.and_eq_false_iff, decide_eq_false_iff_not]
    omega
  have hlow : isLowHalf n = false := by
    simp only [isLowHalf, Bool.and_eq_false_iff, decide_eq_false_iff_not]
    omega
  rcases rest with _ | ⟨c | m, rest⟩
  · simp [joinPieces?, hhigh, hlow]
  · rw [joinPieces?.eq_4 n (.char c :: rest) (fun _ _ h => by cases h)]
    cases joinPieces? (.char c :: rest) <;> simp [hhigh, hlow]
  · rw [joinPieces?.eq_3 n m rest]
    cases joinPieces? (.unit m :: rest) <;> simp [hhigh, hlow]

theorem joinPieces?_map_pieceOf (cs : List Char) : joinPieces? (cs.map pieceOf) = some cs := by
  induction cs with
  | nil => rfl
  | cons c cs ih =>
    rw [List.map_cons, pieceOf]
    split
    · next hc =>
      rw [joinPieces?_unit (by omega), ih, Option.map_some, Char.ofNat_toNat]
    · rw [joinPieces?, ih]
      rfl

theorem readQuoted?_escaped (s : String) :
    readQuoted? (s.toList.flatMap escape) = some (.text (some s)) := by
  rw [readQuoted?, pieces?_flatMap_escape, Option.map_some, joinPieces?_map_pieceOf,
    Option.map_some, String.ofList_toList]

/-! ## Finding the closing quote -/

namespace Lexing

theorem run_cons (s : Lexing) (c : Char) (cs : List Char) :
    s.run (c :: cs) = (s.step c).bind (·.run cs) :=
  rfl

theorem step_plain (done : List Token) (rev : List Char) {c : Char} (hquote : c ≠ '"')
    (hslash : c ≠ '\\') (hc : ¬ c.toNat < 0x20) :
    step ⟨done, .quoted rev false⟩ c = some ⟨done, .quoted (c :: rev) false⟩ := by
  have hplain : (c == '\\') = false := beq_false_of_ne hslash
  simp only [step, if_neg hquote, if_neg hc, hplain]

theorem step_digitChar (done : List Token) (rev : List Char) {n : Nat} (hn : n < 16) :
    step ⟨done, .quoted rev false⟩ (Nat.digitChar n)
      = some ⟨done, .quoted (Nat.digitChar n :: rev) false⟩ := by
  have hplain : ∀ k < 16, Nat.digitChar k ≠ '"' ∧ Nat.digitChar k ≠ '\\' ∧
      ¬ (Nat.digitChar k).toNat < 0x20 := by
    decide
  obtain ⟨hquote, hslash, hc⟩ := hplain n hn
  exact step_plain done rev hquote hslash hc

/-- No written character closes a quoted text. -/
theorem run_escape (done : List Token) (rev : List Char) (c : Char) :
    run ⟨done, .quoted rev false⟩ (escape c)
      = some ⟨done, .quoted ((escape c).reverse ++ rev) false⟩ := by
  unfold escape
  split
  case h_8 _ hquote hslash hb hf hn hr ht =>
    by_cases hc : c.toNat < 0x20
    · have hhigh := step_digitChar done ('0' :: '0' :: 'u' :: '\\' :: rev)
        (n := c.toNat / 16) (by omega)
      have hlow := step_digitChar done
        (Nat.digitChar (c.toNat / 16) :: '0' :: '0' :: 'u' :: '\\' :: rev)
        (n := c.toNat % 16) (by omega)
      rw [if_pos hc]
      calc run ⟨done, .quoted rev false⟩ _
          = run ⟨done, .quoted ('0' :: '0' :: 'u' :: '\\' :: rev) false⟩
              [Nat.digitChar (c.toNat / 16), Nat.digitChar (c.toNat % 16)] := rfl
        _ = _ := by
          rw [run_cons, hhigh, Option.bind_some, run_cons, hlow]
          rfl
    · rw [if_neg hc, run_cons, step_plain done rev hquote hslash hc]
      rfl
  all_goals rfl

theorem run_flatMap_escape (done : List Token) (rev cs : List Char) :
    run ⟨done, .quoted rev false⟩ (cs.flatMap escape)
      = some ⟨done, .quoted ((cs.flatMap escape).reverse ++ rev) false⟩ := by
  induction cs generalizing rev with
  | nil => rfl
  | cons c cs ih =>
    rw [List.flatMap_cons, run_append, run_escape, Option.bind_some, ih, List.reverse_append,
      List.append_assoc]

theorem run_quoted (done : List Token) (s : String) (rest : List Char) :
    run ⟨done, .nothing⟩ (quoted s ++ rest) = run ⟨.text (some s) :: done, .nothing⟩ rest := by
  have hopen : step ⟨done, .nothing⟩ '"' = some ⟨done, .quoted [] false⟩ := rfl
  have hclose : step ⟨done, .quoted ((s.toList.flatMap escape).reverse ++ []) false⟩ '"'
      = some ⟨.text (some s) :: done, .nothing⟩ := by
    rw [List.append_nil, step]
    simp only [if_true, List.reverse_reverse, readQuoted?_escaped, Option.map_some]
  have hbody := run_flatMap_escape done [] s.toList
  calc run ⟨done, .nothing⟩ (quoted s ++ rest)
      = run ⟨done, .quoted [] false⟩ (s.toList.flatMap escape ++ '"' :: rest) := by
        rw [quoted, List.append_assoc, List.cons_append, run_cons, hopen]
        rfl
    _ = run ⟨done, .quoted ((s.toList.flatMap escape).reverse ++ []) false⟩ ('"' :: rest) := by
        rw [run_append, hbody, Option.bind_some]
    _ = run ⟨.text (some s) :: done, .nothing⟩ rest := by
        rw [run_cons, hclose, Option.bind_some]

end Lexing

end TurnTaking.Json
