import TurnTaking.Json.Parse
import TurnTaking.Proofs.Json.Quoted
import TurnTaking.Proofs.Number.Digits
/-!
# Reading written values back

A value is written and read in two passes, and both follow the value: the first finds the tokens
of the text, the second builds the value from them. What stands behind a value matters to the
first pass only when the value is bare, and then it has to end it.

The main statement is `ofText?_print`: a value without reals and unreadable parts is read back as
itself.
-/

namespace TurnTaking.Json

open Number

/-! ## Values without reals -/

/-- Whether a number is a whole number as a text can give it. -/
def Num.whole : Num → Bool
  | natural _ => true
  | negative size => decide (0 < size ∧ size ≤ signLimit)
  | real _ => false

mutual

/-- Whether every part of a value denotes something and every number is whole. -/
def whole : Json → Bool
  | num n => n.whole
  | arr items => itemsWhole items
  | obj members => membersWhole members
  | unreadable => false
  | _ => true

/-- Whether every item of an array is whole. -/
def itemsWhole : List Json → Bool
  | [] => true
  | v :: vs => v.whole && itemsWhole vs

/-- Whether every member of an object is whole. -/
def membersWhole : List (String × Json) → Bool
  | [] => true
  | (_, v) :: ms => v.whole && membersWhole ms

end

/-! ## Bare tokens -/

theorem takeFitting_of_lt (acc : Nat) {ds : List Char} (h : readDigitsFrom acc ds < wordLimit) :
    takeFitting acc ds = (readDigitsFrom acc ds, 0) := by
  induction ds generalizing acc with
  | nil => rfl
  | cons c cs ih =>
    have hle := le_readDigitsFrom (10 * acc + digitValue c) cs
    have hrest : readDigitsFrom (10 * acc + digitValue c) cs < wordLimit := h
    rw [takeFitting, if_pos (Nat.lt_of_le_of_lt hle hrest)]
    exact ih _ hrest

theorem readUnsigned?_toDigits (negative : Bool) {n : Nat} (hn : n < wordLimit) :
    readUnsigned? negative (Nat.toDigits 10 n) = some (ofWhole negative n) := by
  have hdigits : ∀ c ∈ Nat.toDigits 10 n, c.isDigit = true := fun _ => isDigit_of_mem
  have hall : digitsOf (Nat.toDigits 10 n) = Nat.toDigits 10 n := digitsOf_self hdigits
  have hrest : afterDigits (Nat.toDigits 10 n) = [] := afterDigits_self hdigits
  have hwhole : readWhole? (Nat.toDigits 10 n) = some (Nat.toDigits 10 n, []) := by
    rw [readWhole?, hall, hrest]
    simp only [List.isEmpty_iff, Nat.toDigits_ne_nil, no_leading_zero, or_self, if_false]
  have hread : readDigitsFrom 0 (Nat.toDigits 10 n) = n := readDigits_toDigits n
  have hfit : takeFitting 0 (Nat.toDigits 10 n) = (n, 0) := by
    rw [takeFitting_of_lt 0 (by rw [hread]; exact hn), hread]
  rw [readUnsigned?, hwhole]
  simp [readFraction?, readExponent?, hfit, takeFitting]

/-- A text of digits is none of the three words and has no sign. -/
theorem readBare?_toDigits {n : Nat} (hn : n < wordLimit) :
    readBare? (Nat.toDigits 10 n) = some (.num (.natural (.ofNat n))) := by
  have hother : ∀ cs : List Char, cs.all Char.isDigit = false → Nat.toDigits 10 n ≠ cs := by
    rintro cs hcs rfl
    rw [List.all_eq_true.mpr fun c => isDigit_of_mem] at hcs
    cases hcs
  have hnumber : readNumber? (Nat.toDigits 10 n) = readUnsigned? false (Nat.toDigits 10 n) :=
    readNumber?.eq_2 _ fun cs => hother ('-' :: cs) rfl
  rw [readBare?, if_neg (hother _ (by decide)), if_neg (hother _ (by decide)),
    if_neg (hother _ (by decide)), hnumber, readUnsigned?_toDigits false hn]
  rfl

theorem readBare?_negative {n : Nat} (hpos : 0 < n) (hn : n ≤ signLimit) :
    readBare? ('-' :: Nat.toDigits 10 n) = some (.num (.negative n)) := by
  have hlimit : n < wordLimit := by
    have hle : signLimit < wordLimit := by decide
    omega
  have hwhole : ofWhole true n = .num (.negative n) := by
    have hcond : ¬ (n = 0 ∨ signLimit < n) := by omega
    simp only [ofWhole, Bool.not_true, Bool.false_eq_true, if_false, if_neg hcond]
  rw [← hwhole, ← readUnsigned?_toDigits true hlimit]
  rfl

theorem readBare?_text {n : Num} (h : n.whole = true) :
    readBare? n.text.toList = some (.num n) := by
  cases n with
  | natural n =>
    rw [Num.text, String.toList_ofList, readBare?_toDigits (UInt64.toNat_lt n), UInt64.ofNat_toNat]
  | negative size =>
    obtain ⟨hpos, hle⟩ := of_decide_eq_true h
    rw [Num.text, String.toList_ofList, readBare?_negative hpos hle]
  | real x => cases h

/-! ## Finding the tokens -/

mutual

/-- The tokens of a written value. -/
def tokens : Json → List Token
  | str s => [.text (some s)]
  | arr items => .mark .openArray :: itemTokens items ++ [.mark .closeArray]
  | obj members => .mark .openObject :: memberTokens members ++ [.mark .closeObject]
  | v => [.scalar v]

/-- The tokens of the items of an array. -/
def itemTokens : List Json → List Token
  | [] => []
  | [v] => v.tokens
  | v :: vs => v.tokens ++ .mark .comma :: itemTokens vs

/-- The tokens of the members of an object. -/
def memberTokens : List (String × Json) → List Token
  | [] => []
  | [(key, v)] => .text (some key) :: .mark .colon :: v.tokens
  | (key, v) :: ms =>
    .text (some key) :: .mark .colon :: v.tokens ++ .mark .comma :: memberTokens ms

end

theorem printItems_cons_cons (v w : Json) (vs : List Json) :
    printItems (v :: w :: vs) = v.print ++ ',' :: printItems (w :: vs) :=
  rfl

theorem printMembers_cons_cons (key : String) (v : Json) (m : String × Json)
    (ms : List (String × Json)) :
    printMembers ((key, v) :: m :: ms)
      = quoted key ++ ':' :: v.print ++ ',' :: printMembers (m :: ms) :=
  rfl

theorem itemTokens_cons_cons (v w : Json) (vs : List Json) :
    itemTokens (v :: w :: vs) = v.tokens ++ .mark .comma :: itemTokens (w :: vs) :=
  rfl

theorem memberTokens_cons_cons (key : String) (v : Json) (m : String × Json)
    (ms : List (String × Json)) :
    memberTokens ((key, v) :: m :: ms)
      = .text (some key) :: .mark .colon :: v.tokens ++ .mark .comma :: memberTokens (m :: ms) :=
  rfl

namespace Lexing

/-- The tokens of a text that begins with what has led to a state. -/
def through (s : Lexing) (rest : List Char) : Option (List Token) :=
  (s.run rest).bind (·.finish)

/-- What stands behind a bare token ends it. -/
def Ending (rest : List Char) : Prop :=
  ∀ c ∈ rest.head?, endsBare c = true

theorem run_bare (done : List Token) (rev : List Char) {cs : List Char}
    (hcs : ∀ c ∈ cs, endsBare c = false) :
    run ⟨done, .bare rev⟩ cs = some ⟨done, .bare (cs.reverse ++ rev)⟩ := by
  induction cs generalizing rev with
  | nil => rfl
  | cons c cs ih =>
    have hc : endsBare c = false := hcs c List.mem_cons_self
    have hstep : step ⟨done, .bare rev⟩ c = some ⟨done, .bare (c :: rev)⟩ := by
      simp only [step, hc, Bool.false_eq_true, if_false]
    rw [run_cons, hstep, Option.bind_some, ih _ fun d hd => hcs d (List.mem_cons_of_mem c hd),
      List.reverse_cons, List.append_assoc]
    rfl

theorem begin_bare (done : List Token) {c : Char} (hc : endsBare c = false) :
    begin done c = ⟨done, .bare [c]⟩ := by
  simp only [endsBare, Bool.or_eq_false_iff, Option.isSome_eq_false_iff, Option.isNone_iff_eq_none,
    beq_eq_false_iff_ne] at hc
  obtain ⟨⟨hgap, hquote⟩, hmark⟩ := hc
  simp only [begin, hgap, Bool.false_eq_true, if_false, if_neg hquote, hmark]

/-- A bare token is a token of the text when something ends it, if it denotes a value. -/
theorem through_bare_bind (done : List Token) {cs rest : List Char} (hne : cs ≠ [])
    (hcs : ∀ c ∈ cs, endsBare c = false) (hrest : Ending rest) :
    through ⟨done, .nothing⟩ (cs ++ rest)
      = (readBare? cs).bind fun v => through ⟨.scalar v :: done, .nothing⟩ rest := by
  have hrun : run ⟨done, .nothing⟩ cs = some ⟨done, .bare cs.reverse⟩ := by
    obtain ⟨c, cs, rfl⟩ := List.exists_cons_of_ne_nil hne
    have hfirst : step ⟨done, .nothing⟩ c = some ⟨done, .bare [c]⟩ :=
      congrArg some (begin_bare done (hcs c List.mem_cons_self))
    rw [run_cons, hfirst, Option.bind_some,
      run_bare done [c] fun d hd => hcs d (List.mem_cons_of_mem c hd), List.reverse_cons]
  rw [through, run_append, hrun, Option.bind_some]
  cases rest with
  | nil =>
    show finish ⟨done, .bare cs.reverse⟩ = _
    rw [finish]
    simp only [List.reverse_reverse]
    cases readBare? cs <;> rfl
  | cons c rest =>
    have hc : endsBare c = true := hrest c rfl
    have hstep : step ⟨done, .bare cs.reverse⟩ c
        = (readBare? cs).map fun v => begin (.scalar v :: done) c := by
      simp only [step, hc, if_true, List.reverse_reverse]
    rw [run_cons, hstep]
    cases readBare? cs <;> rfl

theorem through_bare (done : List Token) {cs : List Char} {v : Json} {rest : List Char}
    (hne : cs ≠ []) (hcs : ∀ c ∈ cs, endsBare c = false) (hv : readBare? cs = some v)
    (hrest : Ending rest) :
    through ⟨done, .nothing⟩ (cs ++ rest) = through ⟨.scalar v :: done, .nothing⟩ rest := by
  rw [through_bare_bind done hne hcs hrest, hv, Option.bind_some]

/-- One of the three words. -/
theorem through_word (done : List Token) {cs : List Char} {v : Json} {rest : List Char}
    (hne : cs.isEmpty = false) (hcs : cs.any endsBare = false) (hv : readBare? cs = some v)
    (hrest : Ending rest) :
    through ⟨done, .nothing⟩ (cs ++ rest) = through ⟨.scalar v :: done, .nothing⟩ rest := by
  apply through_bare done _ _ hv hrest
  · rintro rfl
    cases hne
  · intro c hc
    exact Bool.eq_false_iff.mpr (List.any_eq_false.mp hcs c hc)

theorem through_quoted (done : List Token) (s : String) (rest : List Char) :
    through ⟨done, .nothing⟩ (quoted s ++ rest) = through ⟨.text (some s) :: done, .nothing⟩ rest :=
  congrArg (·.bind finish) (run_quoted done s rest)

end Lexing

theorem endsBare_digit {c : Char} (hc : c.isDigit = true) : Lexing.endsBare c = false := by
  have hne (d : Char) (hd : d.isDigit = false) : c ≠ d := ne_of_isDigit hc hd
  have hmark : markOf? c = none := by
    unfold markOf?
    split
    case h_7 => rfl
    all_goals exact absurd hc (by decide)
  simp [Lexing.endsBare, isGap, hmark, hne ' ' rfl, hne '\n' rfl, hne '\t' rfl, hne '\r' rfl,
    hne '"' rfl]

theorem endsBare_text {n : Num} (h : n.whole = true) :
    n.text.toList ≠ [] ∧ ∀ c ∈ n.text.toList, Lexing.endsBare c = false := by
  cases n with
  | natural n =>
    rw [Num.text, String.toList_ofList]
    exact ⟨Nat.toDigits_ne_nil, fun c hc => endsBare_digit (isDigit_of_mem hc)⟩
  | negative size =>
    rw [Num.text, String.toList_ofList]
    refine ⟨List.cons_ne_nil _ _, fun c hc => ?_⟩
    rcases List.mem_cons.mp hc with rfl | hc
    · decide
    · exact endsBare_digit (isDigit_of_mem hc)
  | real x => cases h

open Lexing in
mutual

/-- After a written value the machine has the tokens of the value. -/
theorem through_print : ∀ (v : Json), v.whole = true → ∀ (done : List Token) (rest : List Char),
    Ending rest →
    through ⟨done, .nothing⟩ (v.print ++ rest) = through ⟨v.tokens.reverse ++ done, .nothing⟩ rest
  | .null, _, done, rest, hrest => through_word done rfl rfl rfl hrest
  | .bool true, _, done, rest, hrest => through_word done rfl rfl rfl hrest
  | .bool false, _, done, rest, hrest => through_word done rfl rfl rfl hrest
  | .num n, h, done, rest, hrest => by
    obtain ⟨hne, hcs⟩ := endsBare_text h
    exact through_bare done hne hcs (readBare?_text h) hrest
  | .str s, _, done, rest, _ => through_quoted done s rest
  -- behind an item or a member stands a comma or a closing mark, and each of them ends a bare token
  | .arr items, h, done, rest, _ => by
    have hitems := through_printItems items h (.mark .openArray :: done) (']' :: rest)
      (fun c hc => by cases hc; rfl)
    calc through ⟨done, .nothing⟩ (print (.arr items) ++ rest)
        = through ⟨.mark .openArray :: done, .nothing⟩ (printItems items ++ ']' :: rest) := by
          rw [print, List.cons_append, List.cons_append, List.append_assoc]
          rfl
      _ = through ⟨(tokens (.arr items)).reverse ++ done, .nothing⟩ rest := by
          rw [hitems, tokens]
          simp only [List.reverse_append, List.reverse_cons, List.append_assoc]
          rfl
  | .obj members, h, done, rest, _ => by
    have hmembers := through_printMembers members h (.mark .openObject :: done) ('\x7d' :: rest)
      (fun c hc => by cases hc; rfl)
    calc through ⟨done, .nothing⟩ (print (.obj members) ++ rest)
        = through ⟨.mark .openObject :: done, .nothing⟩
            (printMembers members ++ '\x7d' :: rest) := by
          rw [print, List.cons_append, List.cons_append, List.append_assoc]
          rfl
      _ = through ⟨(tokens (.obj members)).reverse ++ done, .nothing⟩ rest := by
          rw [hmembers, tokens]
          simp only [List.reverse_append, List.reverse_cons, List.append_assoc]
          rfl

theorem through_printItems : ∀ (items : List Json), itemsWhole items = true →
    ∀ (done : List Token) (rest : List Char), Ending rest →
    through ⟨done, .nothing⟩ (printItems items ++ rest)
      = through ⟨(itemTokens items).reverse ++ done, .nothing⟩ rest
  | [], _, _, _, _ => rfl
  | [v], h, done, rest, hrest => by
    simp only [itemsWhole, Bool.and_true] at h
    exact through_print v h done rest hrest
  | v :: w :: vs, h, done, rest, hrest => by
    obtain ⟨hv, hvs⟩ := (Bool.and_eq_true _ _).mp h
    have hfirst := through_print v hv done (',' :: (printItems (w :: vs) ++ rest))
      (fun c hc => by cases hc; rfl)
    have hothers := through_printItems (w :: vs) hvs (.mark .comma :: (v.tokens.reverse ++ done))
      rest hrest
    calc through ⟨done, .nothing⟩ (printItems (v :: w :: vs) ++ rest)
        = through ⟨v.tokens.reverse ++ done, .nothing⟩ (',' :: (printItems (w :: vs) ++ rest)) := by
          rw [printItems_cons_cons, List.append_assoc, List.cons_append, hfirst]
      _ = through ⟨(itemTokens (w :: vs)).reverse ++ .mark .comma :: (v.tokens.reverse ++ done),
            .nothing⟩ rest := hothers
      _ = through ⟨(itemTokens (v :: w :: vs)).reverse ++ done, .nothing⟩ rest := by
          rw [itemTokens_cons_cons]
          simp only [List.reverse_append, List.reverse_cons, List.append_assoc]
          rfl

theorem through_printMembers : ∀ (members : List (String × Json)), membersWhole members = true →
    ∀ (done : List Token) (rest : List Char), Ending rest →
    through ⟨done, .nothing⟩ (printMembers members ++ rest)
      = through ⟨(memberTokens members).reverse ++ done, .nothing⟩ rest
  | [], _, _, _, _ => rfl
  | [(key, v)], h, done, rest, hrest => by
    simp only [membersWhole, Bool.and_true] at h
    have hvalue := through_print v h (.mark .colon :: .text (some key) :: done) rest hrest
    calc through ⟨done, .nothing⟩ (printMembers [(key, v)] ++ rest)
        = through ⟨.text (some key) :: done, .nothing⟩ (':' :: (v.print ++ rest)) := by
          rw [printMembers, List.append_assoc, through_quoted]
          rfl
      _ = through ⟨v.tokens.reverse ++ .mark .colon :: .text (some key) :: done, .nothing⟩ rest :=
          hvalue
      _ = through ⟨(memberTokens [(key, v)]).reverse ++ done, .nothing⟩ rest := by
          rw [memberTokens]
          simp only [List.reverse_cons, List.append_assoc]
          rfl
  | (key, v) :: m :: ms, h, done, rest, hrest => by
    obtain ⟨hv, hms⟩ := (Bool.and_eq_true _ _).mp h
    have hvalue := through_print v hv (.mark .colon :: .text (some key) :: done)
      (',' :: (printMembers (m :: ms) ++ rest)) (fun c hc => by cases hc; rfl)
    have hothers := through_printMembers (m :: ms) hms
      (.mark .comma :: (v.tokens.reverse ++ .mark .colon :: .text (some key) :: done)) rest hrest
    calc through ⟨done, .nothing⟩ (printMembers ((key, v) :: m :: ms) ++ rest)
        = through ⟨.text (some key) :: done, .nothing⟩
            (':' :: (v.print ++ ',' :: (printMembers (m :: ms) ++ rest))) := by
          rw [printMembers_cons_cons]
          simp only [List.append_assoc, List.cons_append, through_quoted]
      _ = through ⟨v.tokens.reverse ++ .mark .colon :: .text (some key) :: done, .nothing⟩
            (',' :: (printMembers (m :: ms) ++ rest)) := hvalue
      _ = through ⟨(memberTokens (m :: ms)).reverse ++
            .mark .comma :: (v.tokens.reverse ++ .mark .colon :: .text (some key) :: done),
            .nothing⟩ rest := hothers
      _ = through ⟨(memberTokens ((key, v) :: m :: ms)).reverse ++ done, .nothing⟩ rest := by
          rw [memberTokens_cons_cons]
          simp only [List.reverse_append, List.reverse_cons, List.append_assoc, List.cons_append]
          rfl

end

theorem tokens?_print {v : Json} (h : v.whole = true) : tokens? v.print = some v.tokens := by
  have hprint := through_print v h [] [] (fun c hc => nomatch hc)
  rw [List.append_nil, List.append_nil] at hprint
  calc tokens? v.print
      = Lexing.through ⟨v.tokens.reverse, .nothing⟩ [] := hprint
    _ = some v.tokens := congrArg some (List.reverse_reverse _)

/-! ## Building the value -/

namespace Building

theorem run_singleton (s : Building) (t : Token) : s.run [t] = s.step t := by
  rw [run, List.foldlM_cons]
  exact bind_pure _

/-- A value may also stand first in an array. -/
theorem run_first_item (stack : List Frame) (v : Json) (vs : List Json) (ts : List Token) :
    run ⟨stack, .item, none⟩ (itemTokens (v :: vs) ++ ts)
      = run ⟨stack, .value, none⟩ (itemTokens (v :: vs) ++ ts) := by
  cases v <;> cases vs <;> rfl

/-- A key may also stand first in an object. -/
theorem run_first_key (stack : List Frame) (m : String × Json) (ms : List (String × Json))
    (ts : List Token) :
    run ⟨stack, .firstKey, none⟩ (memberTokens (m :: ms) ++ ts)
      = run ⟨stack, .key, none⟩ (memberTokens (m :: ms) ++ ts) := by
  cases ms <;> rfl

/-- A member of an object as the machine keeps it. -/
def kept (m : String × Json) : Option String × Json :=
  (some m.1, m.2)

theorem ofMembers_kept (members : List (String × Json)) :
    ofMembers (members.map kept) = .obj members := by
  have h : (members.map kept).mapM (fun m => m.1.map fun key => (key, m.2)) = some members := by
    induction members with
    | nil => rfl
    | cons m ms ih =>
      rw [List.map_cons, List.mapM_cons, ih]
      rfl
  rw [ofMembers, h]

theorem run_key (done : List (Option String × Json)) (stack : List Frame) (key : String)
    (ts : List Token) :
    run ⟨.object done :: stack, .key, none⟩ (.text (some key) :: .mark .colon :: ts)
      = run ⟨.member done (some key) :: stack, .value, none⟩ ts :=
  rfl

mutual

/-- The tokens of a value complete the value, whatever its scalars denote. -/
theorem run_tokens : ∀ (v : Json) (stack : List Frame),
    run ⟨stack, .value, none⟩ v.tokens = complete stack v
  | .null, _ => run_singleton _ _
  | .bool _, _ => run_singleton _ _
  | .num _, _ => run_singleton _ _
  | .str _, _ => run_singleton _ _
  | .unreadable, _ => run_singleton _ _
  | .arr [], stack => run_singleton ⟨.array [] :: stack, .item, none⟩ _
  | .arr (v :: vs), stack => by
    have hitems := run_itemTokens (v :: vs) (List.cons_ne_nil v vs) [] stack
    calc run ⟨stack, .value, none⟩ (tokens (.arr (v :: vs)))
        = run ⟨.array [] :: stack, .item, none⟩ (itemTokens (v :: vs) ++ [.mark .closeArray]) := rfl
      _ = run ⟨.array ((v :: vs).reverse ++ []) :: stack, .after, none⟩ [.mark .closeArray] := by
          rw [run_first_item, run_append, hitems, Option.bind_some]
      _ = complete stack (.arr ((v :: vs).reverse ++ []).reverse) := run_singleton _ _
      _ = complete stack (.arr (v :: vs)) := by rw [List.append_nil, List.reverse_reverse]
  | .obj [], stack => run_singleton ⟨.object [] :: stack, .firstKey, none⟩ _
  | .obj (m :: ms), stack => by
    have hmembers := run_memberTokens (m :: ms) (List.cons_ne_nil m ms) [] stack
    calc run ⟨stack, .value, none⟩ (tokens (.obj (m :: ms)))
        = run ⟨.object [] :: stack, .firstKey, none⟩
            (memberTokens (m :: ms) ++ [.mark .closeObject]) := rfl
      _ = run ⟨.object (((m :: ms).map kept).reverse ++ []) :: stack, .after, none⟩
            [.mark .closeObject] := by
          rw [run_first_key, run_append, hmembers, Option.bind_some]
      _ = complete stack (ofMembers (((m :: ms).map kept).reverse ++ []).reverse) :=
          run_singleton _ _
      _ = complete stack (.obj (m :: ms)) := by
          rw [List.append_nil, List.reverse_reverse, ofMembers_kept]

theorem run_itemTokens : ∀ (items : List Json), items ≠ [] →
    ∀ (done : List Json) (stack : List Frame),
    run ⟨.array done :: stack, .value, none⟩ (itemTokens items)
      = some ⟨.array (items.reverse ++ done) :: stack, .after, none⟩
  | [], hne, _, _ => absurd rfl hne
  | [v], _, done, stack => run_tokens v (.array done :: stack)
  | v :: w :: ws, _, done, stack => by
    have hfirst := run_tokens v (.array done :: stack)
    have hothers := run_itemTokens (w :: ws) (List.cons_ne_nil w ws) (v :: done) stack
    calc run ⟨.array done :: stack, .value, none⟩ (itemTokens (v :: w :: ws))
        = run ⟨.array (v :: done) :: stack, .value, none⟩ (itemTokens (w :: ws)) := by
          rw [itemTokens_cons_cons, run_append, hfirst]
          rfl
      _ = some ⟨.array ((v :: w :: ws).reverse ++ done) :: stack, .after, none⟩ := by
          rw [hothers, List.reverse_cons (a := v), List.append_assoc]
          rfl

theorem run_memberTokens : ∀ (members : List (String × Json)), members ≠ [] →
    ∀ (done : List (Option String × Json)) (stack : List Frame),
    run ⟨.object done :: stack, .key, none⟩ (memberTokens members)
      = some ⟨.object ((members.map kept).reverse ++ done) :: stack, .after, none⟩
  | [], hne, _, _ => absurd rfl hne
  | [(key, v)], _, done, stack => run_tokens v (.member done (some key) :: stack)
  | (key, v) :: m :: ms, _, done, stack => by
    have hfirst := run_tokens v (.member done (some key) :: stack)
    have hothers := run_memberTokens (m :: ms) (List.cons_ne_nil m ms) (kept (key, v) :: done) stack
    calc run ⟨.object done :: stack, .key, none⟩ (memberTokens ((key, v) :: m :: ms))
        = run ⟨.object (kept (key, v) :: done) :: stack, .key, none⟩ (memberTokens (m :: ms)) := by
          rw [memberTokens_cons_cons, List.cons_append, List.cons_append, run_key, run_append,
            hfirst]
          rfl
      _ = some ⟨.object ((((key, v) :: m :: ms).map kept).reverse ++ done) :: stack, .after,
            none⟩ := by
          rw [hothers, List.map_cons (a := (key, v)), List.reverse_cons (a := kept (key, v)),
            List.append_assoc]
          rfl

end

theorem ofTokens?_tokens (v : Json) : ofTokens? v.tokens = some v := by
  rw [ofTokens?, start, run_tokens v]
  rfl

end Building

theorem ofText?_print {v : Json} (h : v.whole = true) : ofText? v.print = some v := by
  rw [ofText?, tokens?_print h]
  exact Building.ofTokens?_tokens v

end TurnTaking.Json
