import TurnTaking.Proofs.Json.RoundTrip
/-!
# Blanks between tokens

Between the tokens of a text there may be any blanks, and these are of no account. Tokens are given
here as they are spelled, and a text spells a list of them when nothing but blanks stands between
them; two bare tokens must not touch, since they would be read as one.

The main statements are `tokens?_of_spells`, by which the tokens of a text depend only on what it
spells, and `exists_spells`, that every text that has tokens spells some.
-/

namespace TurnTaking.Json

/-! ## Spelled tokens -/

/-- The character of a mark. -/
def Mark.char : Mark → Char
  | openArray => '['
  | closeArray => ']'
  | openObject => '\x7b'
  | closeObject => '\x7d'
  | comma => ','
  | colon => ':'

/-- A token as it is spelled. -/
inductive Lexeme where
  | mark (m : Mark)
  /-- What stands between two quotes. -/
  | quoted (raw : List Char)
  | bare (cs : List Char)
deriving DecidableEq, Repr

/-- Whether a text can stand between quotes: a quote or a control character only behind a backslash,
and no backslash at the end. `escaped` says that one stands before the text. -/
def betweenQuotes (escaped : Bool) : List Char → Bool
  | [] => !escaped
  | c :: cs =>
    if escaped then betweenQuotes false cs
    else c != '"' && !decide (c.toNat < 0x20) && betweenQuotes (c == '\\') cs

namespace Lexeme

/-- The characters of a token. -/
def spelling : Lexeme → List Char
  | mark m => [m.char]
  | quoted raw => '"' :: raw ++ ['"']
  | bare cs => cs

/-- The token that is spelled, if any is. -/
def token? : Lexeme → Option Token
  | mark m => some (.mark m)
  | quoted raw => readQuoted? raw
  | bare cs => (readBare? cs).map .scalar

/-- Whether the characters belong to one token. -/
def Proper : Lexeme → Prop
  | mark _ => True
  | quoted raw => betweenQuotes false raw = true
  | bare cs => cs ≠ [] ∧ ∀ c ∈ cs, Lexing.endsBare c = false

/-- Whether the token ends where the rest of the text begins. -/
def EndsBefore (rest : List Char) : Lexeme → Prop
  | bare _ => Lexing.Ending rest
  | _ => True

end Lexeme

/-- A text spells some tokens: they stand in it in order, with nothing but blanks before, between
and behind them. -/
inductive Spells : List Lexeme → List Char → Prop
  | done {gap : List Char} (hgap : ∀ c ∈ gap, isGap c = true) : Spells [] gap
  | token {gap rest : List Char} {l : Lexeme} {ls : List Lexeme}
      (hgap : ∀ c ∈ gap, isGap c = true) (hl : l.Proper) (hend : l.EndsBefore rest)
      (hrest : Spells ls rest) : Spells (l :: ls) (gap ++ l.spelling ++ rest)

/-- One more blank at the start. -/
theorem Spells.cons {ls : List Lexeme} {cs : List Char} {c : Char} (hc : isGap c = true)
    (h : Spells ls cs) : Spells ls (c :: cs) := by
  cases h with
  | done hgap =>
    apply Spells.done
    simpa [hc] using hgap
  | @token gap rest l ls hgap hl hend hrest =>
    have hmore : ∀ d ∈ c :: gap, isGap d = true := by simpa [hc] using hgap
    exact Spells.token hmore hl hend hrest

/-- One more token at the start, without a blank before it. -/
theorem Spells.next {ls : List Lexeme} {l : Lexeme} {rest : List Char} (hl : l.Proper)
    (hend : l.EndsBefore rest) (h : Spells ls rest) : Spells (l :: ls) (l.spelling ++ rest) := by
  have hnone : ∀ c ∈ ([] : List Char), isGap c = true := by simp
  exact Spells.token hnone hl hend h

/-! ## What is spelled is read -/

namespace Lexing

theorem through_cons (s : Lexing) (c : Char) (rest : List Char) :
    through s (c :: rest) = (s.step c).bind fun s' => through s' rest := by
  rw [through, run_cons]
  cases s.step c <;> rfl

theorem begin_gap (done : List Token) {c : Char} (hc : isGap c = true) :
    begin done c = ⟨done, .nothing⟩ :=
  if_pos hc

theorem through_gap (done : List Token) {gap : List Char} (hgap : ∀ c ∈ gap, isGap c = true)
    (rest : List Char) :
    through ⟨done, .nothing⟩ (gap ++ rest) = through ⟨done, .nothing⟩ rest := by
  induction gap with
  | nil => rfl
  | cons c gap ih =>
    have hstep : step ⟨done, .nothing⟩ c = some ⟨done, .nothing⟩ :=
      congrArg some (begin_gap done (hgap c List.mem_cons_self))
    rw [List.cons_append, through_cons, hstep]
    exact ih fun d hd => hgap d (List.mem_cons_of_mem c hd)

theorem through_mark (done : List Token) (m : Mark) (rest : List Char) :
    through ⟨done, .nothing⟩ (m.char :: rest) = through ⟨.mark m :: done, .nothing⟩ rest := by
  cases m <;> rfl

theorem step_close (done : List Token) (rev : List Char) :
    step ⟨done, .quoted rev false⟩ '"' =
      (readQuoted? rev.reverse).map fun t => ⟨t :: done, .nothing⟩ :=
  rfl

/-- Up to the closing quote the machine collects what stands between the quotes. -/
theorem through_rest_of_quoted (done : List Token) (rev : List Char) {escaped : Bool}
    {raw : List Char} (h : betweenQuotes escaped raw = true) (rest : List Char) :
    through ⟨done, .quoted rev escaped⟩ (raw ++ '"' :: rest) =
      (readQuoted? (rev.reverse ++ raw)).bind fun t => through ⟨t :: done, .nothing⟩ rest := by
  induction raw generalizing rev escaped with
  | nil =>
    have hescaped : escaped = false := by simpa [betweenQuotes] using h
    rw [hescaped, List.append_nil, List.nil_append, through_cons, step_close]
    cases readQuoted? rev.reverse <;> rfl
  | cons c raw ih =>
    -- one more character is collected, and the rest is read behind it
    have hcollect : ∀ escaped', betweenQuotes escaped' raw = true →
        step ⟨done, .quoted rev escaped⟩ c = some ⟨done, .quoted (c :: rev) escaped'⟩ →
        through ⟨done, .quoted rev escaped⟩ (c :: raw ++ '"' :: rest) =
          (readQuoted? (rev.reverse ++ c :: raw)).bind fun t =>
            through ⟨t :: done, .nothing⟩ rest := by
      intro escaped' hraw hstep
      have hrest := ih (c :: rev) hraw
      rw [List.reverse_cons, List.append_assoc, List.singleton_append] at hrest
      rw [List.cons_append, through_cons, hstep, Option.bind_some, hrest]
    cases escaped with
    | true => exact hcollect false h rfl
    | false =>
      simp only [betweenQuotes, Bool.false_eq_true, if_false, Bool.and_eq_true, bne_iff_ne,
        Bool.not_eq_true', decide_eq_false_iff_not] at h
      obtain ⟨⟨hquote, hcontrol⟩, hraw⟩ := h
      apply hcollect (c == '\\') hraw
      simp only [step, if_neg hquote, if_neg hcontrol]

/-- One spelled token. -/
theorem through_lexeme (done : List Token) {l : Lexeme} {rest : List Char} (hl : l.Proper)
    (hend : l.EndsBefore rest) :
    through ⟨done, .nothing⟩ (l.spelling ++ rest) =
      l.token?.bind fun t => through ⟨t :: done, .nothing⟩ rest := by
  cases l with
  | mark m => exact through_mark done m rest
  | quoted raw =>
    have hrest := through_rest_of_quoted done [] hl rest
    rw [Lexeme.spelling, List.append_assoc]
    exact hrest
  | bare cs =>
    rw [Lexeme.spelling, Lexeme.token?, through_bare_bind done hl.1 hl.2 hend]
    cases readBare? cs <;> rfl

/-- A text is read token by token. -/
theorem through_spells {ls : List Lexeme} {cs : List Char} (h : Spells ls cs) (done : List Token) :
    through ⟨done, .nothing⟩ cs = (ls.mapM Lexeme.token?).map (done.reverse ++ ·) := by
  induction h generalizing done with
  | @done gap hgap =>
    have hempty := through_gap done hgap []
    rw [List.append_nil] at hempty
    rw [hempty]
    simp [through, run, finish]
  | @token gap rest l ls hgap hl hend hrest ih =>
    rw [List.append_assoc, through_gap done hgap, through_lexeme done hl hend, List.mapM_cons]
    cases l.token? with
    | none => rfl
    | some t =>
      rw [Option.bind_some, ih (t :: done)]
      cases ls.mapM Lexeme.token? <;> simp

end Lexing

/-- The tokens of a text are those that it spells. -/
theorem tokens?_of_spells {ls : List Lexeme} {cs : List Char} (h : Spells ls cs) :
    tokens? cs = ls.mapM Lexeme.token? := by
  have hthrough := Lexing.through_spells h []
  simpa [tokens?, Lexing.start, Lexing.through] using hthrough

/-- Texts that spell the same tokens denote the same value, if any. -/
theorem ofText?_of_spells {ls : List Lexeme} {cs cs' : List Char} (h : Spells ls cs)
    (h' : Spells ls cs') : ofText? cs' = ofText? cs := by
  rw [ofText?, ofText?, tokens?_of_spells h, tokens?_of_spells h']

/-! ## What is read is spelled -/

namespace Lexing

/-- How a text goes on that finishes what the machine is in the middle of and then spells some
tokens. -/
def Finishes (cs : List Char) : Pending → Prop
  | .nothing => ∃ ls, Spells ls cs
  | .bare _ => ∃ more rest, cs = more ++ rest ∧ (∀ c ∈ more, endsBare c = false) ∧ Ending rest ∧
      ∃ ls, Spells ls rest
  | .quoted _ escaped => ∃ more rest, cs = more ++ '"' :: rest ∧
      betweenQuotes escaped more = true ∧ ∃ ls, Spells ls rest

theorem char_of_markOf? {c : Char} {m : Mark} (h : markOf? c = some m) : m.char = c := by
  unfold markOf? at h
  split at h <;> cases h <;> rfl

theorem endsBare_eq_false {c : Char} (hgap : isGap c = false) (hquote : c ≠ '"')
    (hmark : markOf? c = none) : endsBare c = false := by
  simp [endsBare, hgap, hquote, hmark]

/-- A character between two tokens begins what the rest of the text finishes. -/
theorem spells_of_begin {done : List Token} {c : Char} {cs : List Char}
    (h : Finishes cs (begin done c).pending) : ∃ ls, Spells ls (c :: cs) := by
  cases hgap : isGap c with
  | true =>
    rw [begin_gap done hgap] at h
    rcases h with ⟨ls, hls⟩
    exact ⟨ls, hls.cons hgap⟩
  | false =>
    by_cases hquote : c = '"'
    · subst hquote
      rcases h with ⟨raw, rest, rfl, hraw, ls, hls⟩
      refine ⟨.quoted raw :: ls, ?_⟩
      have hspells : Spells _ ('"' :: raw ++ ['"'] ++ rest) :=
        Spells.next (l := .quoted raw) hraw trivial hls
      simpa using hspells
    · rw [begin, hgap, if_neg Bool.false_ne_true, if_neg hquote] at h
      cases hmark : markOf? c with
      | some m =>
        rw [hmark] at h
        rcases h with ⟨ls, hls⟩
        rw [← char_of_markOf? hmark]
        exact ⟨.mark m :: ls, Spells.next (l := .mark m) trivial trivial hls⟩
      | none =>
        rw [hmark] at h
        rcases h with ⟨more, rest, rfl, hmore, hend, ls, hls⟩
        have hproper : (Lexeme.bare (c :: more)).Proper := by
          refine ⟨List.cons_ne_nil c more, ?_⟩
          intro d hd
          rcases List.mem_cons.1 hd with rfl | hd
          · exact endsBare_eq_false hgap hquote hmark
          · exact hmore d hd
        exact ⟨.bare (c :: more) :: ls, Spells.next hproper hend hls⟩

/-- If the rest of a text finishes what the machine is in the middle of after one more character,
then with this character it finishes what the machine is in the middle of now. -/
theorem finishes_of_step {s s' : Lexing} {c : Char} {cs : List Char} (hstep : s.step c = some s')
    (h : Finishes cs s'.pending) : Finishes (c :: cs) s.pending := by
  rcases s with ⟨done, pending⟩
  cases pending with
  | nothing =>
    cases hstep
    exact spells_of_begin h
  | bare rev =>
    by_cases hc : endsBare c = true
    · -- the token ends here, and the character begins something else
      simp only [step, if_pos hc] at hstep
      rcases Option.map_eq_some_iff.1 hstep with ⟨v, -, rfl⟩
      have hend : Ending (c :: cs) := by
        intro d hd
        cases hd
        exact hc
      exact ⟨[], c :: cs, rfl, by simp, hend, spells_of_begin h⟩
    · simp only [step, if_neg hc] at hstep
      cases hstep
      rcases h with ⟨more, rest, rfl, hmore, hend, hrest⟩
      refine ⟨c :: more, rest, rfl, ?_, hend, hrest⟩
      simpa [hc] using hmore
  | quoted rev escaped =>
    cases escaped with
    | true =>
      cases hstep
      rcases h with ⟨more, rest, rfl, hmore, hrest⟩
      exact ⟨c :: more, rest, rfl, hmore, hrest⟩
    | false =>
      by_cases hquote : c = '"'
      · subst hquote
        rw [step_close] at hstep
        rcases Option.map_eq_some_iff.1 hstep with ⟨t, -, rfl⟩
        exact ⟨[], cs, rfl, rfl, h⟩
      · by_cases hcontrol : c.toNat < 0x20
        · simp only [step, if_neg hquote, if_pos hcontrol] at hstep
          cases hstep
        · simp only [step, if_neg hquote, if_neg hcontrol] at hstep
          cases hstep
          rcases h with ⟨more, rest, rfl, hmore, hrest⟩
          refine ⟨c :: more, rest, rfl, ?_, hrest⟩
          simpa [betweenQuotes, hquote, hcontrol] using hmore

/-- A text with which the machine comes to an end finishes what the machine is in the middle of. -/
theorem finishes_of_through {cs : List Char} {s : Lexing} {ts : List Token}
    (h : through s cs = some ts) : Finishes cs s.pending := by
  induction cs generalizing s with
  | nil =>
    rcases s with ⟨done, pending⟩
    cases pending with
    | nothing => exact ⟨[], .done (by simp)⟩
    | bare rev =>
      exact ⟨[], [], rfl, by simp, (fun c hc => nomatch hc), [], .done (by simp)⟩
    | quoted rev escaped => cases h
  | cons c cs ih =>
    rw [through_cons] at h
    rcases Option.bind_eq_some_iff.1 h with ⟨s', hstep, hrest⟩
    exact finishes_of_step hstep (ih hrest)

end Lexing

/-- A text that has tokens spells some. -/
theorem exists_spells {cs : List Char} {ts : List Token} (h : tokens? cs = some ts) :
    ∃ ls, Spells ls cs :=
  Lexing.finishes_of_through (s := .start) h

end TurnTaking.Json
