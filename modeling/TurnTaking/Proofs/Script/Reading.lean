import Mathlib.Data.List.Chain
import TurnTaking.Proofs.Script.Lines
/-!
# Reading a script line by line

A script is read from its first line to its last one, and the time of the latest entry is carried
along. What comes of it is said here without that state: the entries are those of the lines, each
read on its own, if all lines can be read and the times never go back; otherwise the first line at
fault decides, with its number in the text, and all that follows it is of no account.

The main statement is `ofText_line_by_line`. It is shown for the lines after some entries that have
been read, by induction on the lines: one more line is passed over, is at fault, or yields one more
entry.
-/

namespace TurnTaking

open Json Text

/-- The number of the line at fault. -/
def ScriptError.line : ScriptError → Nat
  | badEntry line _ => line
  | backwards line _ _ => line

/-- The same fault with another line number. -/
def ScriptError.withLine (line : Nat) : ScriptError → ScriptError
  | badEntry _ fault => .badEntry line fault
  | backwards _ atMs previous => .backwards line atMs previous

/-- What the text of a fault says about the line. -/
def ScriptError.what : ScriptError → String
  | badEntry _ _ => "invalid script entry"
  | backwards _ atMs previous =>
    "at_ms " ++ String.ofList (Nat.toDigits 10 atMs.toNat) ++ " goes back in time (previous " ++
      String.ofList (Nat.toDigits 10 previous.toNat) ++ ")"

/-- The text of a fault names the line first. -/
theorem ScriptError.message_eq (err : ScriptError) :
    err.message = "line " ++ String.ofList (Nat.toDigits 10 err.line) ++ ": " ++ err.what := by
  apply String.toList_inj.1
  cases err with
  | badEntry line fault => simp [message, ScriptError.line, what]
  | backwards line atMs previous => simp [message, ScriptError.line, what]

namespace Script

/-- What a line holds, read on its own. -/
def Line.Holds (l : Line) (e : ScriptEntry) : Prop :=
  readText ScriptEntry.read l.content = .ok e

/-- The times of some entries never go back from one entry to the next. -/
def InOrder (es : List ScriptEntry) : Prop :=
  es.IsChain fun e e' => e.atMs ≤ e'.atMs

/-- What is wrong with a line that follows the lines with some entries: it cannot be read, or its
time is earlier than that of the line before it. -/
inductive Line.AtFault (l : Line) (es : List ScriptEntry) : ScriptError → Prop where
  | badEntry {fault : TextFault} (hread : readText ScriptEntry.read l.content = .error fault) :
      AtFault l es (.badEntry l.number fault)
  | backwards {e previous : ScriptEntry} (hread : l.Holds e)
      (hprevious : es.getLast? = some previous) (hback : e.atMs < previous.atMs) :
      AtFault l es (.backwards l.number e.atMs previous.atMs)

/-! ## One line -/

/-- The time of the last of some entries. -/
def timeAfter (es : List ScriptEntry) : UInt64 :=
  (es.getLast?.map (·.atMs)).getD 0

theorem timeAfter_of_getLast? {es : List ScriptEntry} {e : ScriptEntry}
    (h : es.getLast? = some e) : timeAfter es = e.atMs := by
  rw [timeAfter, h]
  rfl

/-- One more entry is in order just if it is not earlier than the last one. -/
theorem inOrder_snoc_iff {es : List ScriptEntry} (hes : InOrder es) (e : ScriptEntry) :
    InOrder (es ++ [e]) ↔ timeAfter es ≤ e.atMs := by
  rw [InOrder, List.isChain_append]
  cases hlast : es.getLast? with
  | none =>
    rw [timeAfter, hlast]
    simpa [InOrder] using hes
  | some previous =>
    rw [timeAfter_of_getLast? hlast]
    simpa [InOrder] using fun _ => hes

theorem inOrder_of_append {es es' : List ScriptEntry} (h : InOrder (es ++ es')) : InOrder es :=
  List.IsChain.left_of_append h

namespace Line.AtFault

variable {l : Line} {es : List ScriptEntry} {err err' : ScriptError}

theorem line_eq (h : l.AtFault es err) : err.line = l.number := by
  cases h with
  | badEntry => rfl
  | backwards => rfl

/-- A line at fault yields no entry that is in order. -/
theorem not_inOrder (h : l.AtFault es err) {e : ScriptEntry} (he : l.Holds e) :
    ¬ InOrder (es ++ [e]) := by
  intro horder
  cases h with
  | badEntry hread =>
    rw [Line.Holds, hread] at he
    cases he
  | @backwards e' previous hread hprevious hback =>
    have heq : e = e' := Except.ok.inj (he.symm.trans hread)
    have hnext := (inOrder_snoc_iff (inOrder_of_append horder) e).1 horder
    rw [timeAfter_of_getLast? hprevious, heq] at hnext
    exact UInt64.not_lt.2 hnext hback

/-- There is one thing wrong with a line. -/
theorem unique (h : l.AtFault es err) (h' : l.AtFault es err') : err = err' := by
  cases h with
  | badEntry hread =>
    cases h' with
    | badEntry hread' =>
      rw [Except.error.inj (hread.symm.trans hread')]
    | backwards hread' =>
      rw [Line.Holds, hread] at hread'
      cases hread'
  | backwards hread hprevious hback =>
    cases h' with
    | badEntry hread' =>
      rw [Line.Holds, hread'] at hread
      cases hread
    | backwards hread' hprevious' hback' =>
      rw [Except.ok.inj (hread.symm.trans hread'),
        Option.some.inj (hprevious.symm.trans hprevious')]

end Line.AtFault

/-- What a line comes to when it follows some entries, whatever lines stand behind it: it is passed
over, it is at fault, or it yields one more entry. -/
theorem line_cases {es : List ScriptEntry} (hes : InOrder es) (number : Nat) (raw : List Char) :
    (isEntry (trim raw) = false ∧
      ∀ rest, ofLines number (timeAfter es) (raw :: rest) =
        ofLines (number + 1) (timeAfter es) rest) ∨
    isEntry (trim raw) = true ∧
      ((∃ err, (⟨number, trim raw⟩ : Line).AtFault es err ∧
        ∀ rest, ofLines number (timeAfter es) (raw :: rest) = .error err) ∨
      ∃ e, (⟨number, trim raw⟩ : Line).Holds e ∧ InOrder (es ++ [e]) ∧
        ∀ rest, ofLines number (timeAfter es) (raw :: rest) =
          (ofLines (number + 1) (timeAfter (es ++ [e])) rest).map (e :: ·)) := by
  cases hentry : isEntry (trim raw) with
  | false =>
    left
    refine ⟨rfl, ?_⟩
    intro rest
    simp [ofLines, hentry]
  | true =>
    right
    refine ⟨rfl, ?_⟩
    cases hread : readText ScriptEntry.read (trim raw) with
    | error fault =>
      left
      refine ⟨_, .badEntry hread, ?_⟩
      intro rest
      simp [ofLines, hentry, hread]
    | ok e =>
      by_cases hback : e.atMs < timeAfter es
      · -- only an entry before it makes a time too early
        left
        cases hlast : es.getLast? with
        | none =>
          rw [timeAfter, hlast] at hback
          exact absurd hback (UInt64.not_lt.2 (UInt64.zero_le))
        | some previous =>
          have hprevious := timeAfter_of_getLast? hlast
          rw [hprevious] at hback ⊢
          refine ⟨_, .backwards hread hlast hback, ?_⟩
          intro rest
          simp [ofLines, hentry, hread, hback]
      · right
        refine ⟨e, hread, (inOrder_snoc_iff hes e).2 (UInt64.not_lt.1 hback), ?_⟩
        intro rest
        have htime : timeAfter (es ++ [e]) = e.atMs := timeAfter_of_getLast? (by simp)
        rw [htime]
        simp [ofLines, hentry, hread, hback]

/-! ## All lines -/

/-- The lines yield these entries, each read on its own, and in order after those before them. -/
def AllHold (es : List ScriptEntry) (ls : List Line) (es' : List ScriptEntry) : Prop :=
  List.Forall₂ Line.Holds ls es' ∧ InOrder (es ++ es')

/-- All lines before one of them yield entries that are in order, and that one is at fault. -/
def FirstFault (es : List ScriptEntry) (ls : List Line) (err : ScriptError) : Prop :=
  ∃ before line after es', ls = before ++ line :: after ∧ AllHold es before es' ∧
    line.AtFault (es ++ es') err

section Cons

variable {es : List ScriptEntry} {l : Line} {e : ScriptEntry} {err : ScriptError}

theorem allHold_cons_iff (he : l.Holds e) (ls : List Line) (es' : List ScriptEntry) :
    AllHold es (l :: ls) es' ↔ ∃ rest, es' = e :: rest ∧ AllHold (es ++ [e]) ls rest := by
  constructor
  · rintro ⟨hholds, horder⟩
    cases hholds with
    | @cons _ e' _ rest he' hrest =>
      have heq : e' = e := Except.ok.inj (he'.symm.trans he)
      refine ⟨rest, by rw [heq], hrest, ?_⟩
      rw [List.append_assoc, ← heq]
      exact horder
  · rintro ⟨rest, rfl, hrest, horder⟩
    rw [List.append_assoc] at horder
    exact ⟨.cons he hrest, horder⟩

theorem not_allHold_of_fault (hfault : l.AtFault es err) (ls : List Line)
    (es' : List ScriptEntry) : ¬ AllHold es (l :: ls) es' := by
  rintro ⟨hholds, horder⟩
  cases hholds with
  | @cons _ e' _ rest he' _ =>
    rw [← List.singleton_append, ← List.append_assoc] at horder
    exact hfault.not_inOrder he' (inOrder_of_append horder)

theorem firstFault_cons_iff (he : l.Holds e) (horder : InOrder (es ++ [e])) (ls : List Line) :
    FirstFault es (l :: ls) err ↔ FirstFault (es ++ [e]) ls err := by
  constructor
  · rintro ⟨before, line, after, es', heq, hbefore, hfault⟩
    cases before with
    | nil =>
      -- the line holds an entry in order, so the fault is not here
      obtain ⟨hline, -⟩ := List.cons.inj heq
      cases hbefore.1
      rw [List.append_nil, ← hline] at hfault
      exact absurd horder (hfault.not_inOrder he)
    | cons b before =>
      obtain ⟨hline, hrest⟩ := List.cons.inj heq
      rw [← hline] at hbefore
      rcases (allHold_cons_iff he before es').1 hbefore with ⟨rest, rfl, hall⟩
      refine ⟨before, line, after, rest, hrest, hall, ?_⟩
      rw [List.append_assoc]
      exact hfault
  · rintro ⟨before, line, after, es', rfl, hbefore, hfault⟩
    refine ⟨l :: before, line, after, e :: es', rfl, ?_, ?_⟩
    · exact (allHold_cons_iff he before _).2 ⟨es', rfl, hbefore⟩
    · rw [List.append_assoc] at hfault
      exact hfault

theorem firstFault_cons_iff_of_fault (hes : InOrder es) (hfault : l.AtFault es err)
    (ls : List Line) (err' : ScriptError) : FirstFault es (l :: ls) err' ↔ err = err' := by
  constructor
  · rintro ⟨before, line, after, es', heq, hbefore, hfault'⟩
    cases before with
    | nil =>
      obtain ⟨hline, -⟩ := List.cons.inj heq
      cases hbefore.1
      rw [List.append_nil, ← hline] at hfault'
      exact hfault.unique hfault'
    | cons b before =>
      obtain ⟨hline, -⟩ := List.cons.inj heq
      rw [← hline] at hbefore
      exact absurd hbefore (not_allHold_of_fault hfault before es')
  · rintro rfl
    refine ⟨[], l, ls, [], rfl, ⟨.nil, ?_⟩, ?_⟩
    · rw [List.append_nil]
      exact hes
    · rw [List.append_nil]
      exact hfault

end Cons

theorem map_cons_eq_ok_iff {e : ScriptEntry} {r : Except ScriptError (List ScriptEntry)}
    {es : List ScriptEntry} :
    r.map (e :: ·) = .ok es ↔ ∃ rest, es = e :: rest ∧ r = .ok rest := by
  cases r with
  | error err => simp [Except.map]
  | ok rest => simp [Except.map, eq_comm]

theorem map_cons_eq_error_iff {e : ScriptEntry} {r : Except ScriptError (List ScriptEntry)}
    {err : ScriptError} : r.map (e :: ·) = .error err ↔ r = .error err := by
  cases r with
  | error err' => simp [Except.map]
  | ok rest => simp [Except.map]

/-- Lines that follow some entries are read just if all of them hold entries that are in order. -/
theorem ofLines_eq_ok_iff {es : List ScriptEntry} (hes : InOrder es) (number : Nat)
    (raws : List (List Char)) (es' : List ScriptEntry) :
    ofLines number (timeAfter es) raws = .ok es' ↔ AllHold es (linesFrom number raws) es' := by
  induction raws generalizing number es es' with
  | nil =>
    constructor
    · intro h
      cases h
      refine ⟨.nil, ?_⟩
      rw [List.append_nil]
      exact hes
    · rintro ⟨hholds, -⟩
      cases hholds
      rfl
  | cons raw rest ih =>
    rcases line_cases hes number raw with
      ⟨hidle, heq⟩ | ⟨hentry, ⟨err, hfault, heq⟩ | ⟨e, he, horder, heq⟩⟩
    · rw [heq, linesFrom_of_not_entry hidle]
      exact ih hes (number + 1) es'
    · rw [heq, linesFrom_of_entry hentry]
      constructor
      · intro h
        cases h
      · intro hall
        exact absurd hall (not_allHold_of_fault hfault _ _)
    · rw [heq, linesFrom_of_entry hentry, allHold_cons_iff he, map_cons_eq_ok_iff]
      exact exists_congr fun rest' => and_congr_right fun _ => ih horder (number + 1) rest'

/-- Lines that follow some entries are refused just because of the first one at fault. -/
theorem ofLines_eq_error_iff {es : List ScriptEntry} (hes : InOrder es) (number : Nat)
    (raws : List (List Char)) (err : ScriptError) :
    ofLines number (timeAfter es) raws = .error err ↔
      FirstFault es (linesFrom number raws) err := by
  induction raws generalizing number es with
  | nil =>
    constructor
    · intro h
      cases h
    · rintro ⟨before, line, after, es', heq, -, -⟩
      exact absurd (show before ++ line :: after = [] from heq.symm) (by simp)
  | cons raw rest ih =>
    rcases line_cases hes number raw with
      ⟨hidle, heq⟩ | ⟨hentry, ⟨err', hfault, heq⟩ | ⟨e, he, horder, heq⟩⟩
    · rw [heq, linesFrom_of_not_entry hidle]
      exact ih hes (number + 1)
    · rw [heq, linesFrom_of_entry hentry, firstFault_cons_iff_of_fault hes hfault]
      exact ⟨fun h => Except.error.inj h, fun h => congrArg Except.error h⟩
    · rw [heq, linesFrom_of_entry hentry, firstFault_cons_iff he horder, map_cons_eq_error_iff]
      exact ih horder (number + 1)

/-- What stands after the line at fault is of no account. -/
theorem ofLines_of_prefix {es : List ScriptEntry} (hes : InOrder es) (number : Nat)
    {raws : List (List Char)} {err : ScriptError}
    (h : ofLines number (timeAfter es) raws = .error err) :
    ∃ k, err.line = number + k ∧ ∀ raws', raws.take (k + 1) <+: raws' →
      ofLines number (timeAfter es) raws' = .error err := by
  induction raws generalizing number es with
  | nil => cases h
  | cons raw rest ih =>
    rcases line_cases hes number raw with
      ⟨hidle, heq⟩ | ⟨hentry, ⟨err', hfault, heq⟩ | ⟨e, he, horder, heq⟩⟩
    · rw [heq] at h
      rcases ih hes (number + 1) h with ⟨k, hline, hsame⟩
      refine ⟨k + 1, by omega, ?_⟩
      intro raws' hprefix
      rcases List.cons_prefix_iff.1 hprefix with ⟨rest', rfl, hrest⟩
      rw [heq]
      exact hsame rest' hrest
    · rw [heq] at h
      cases h
      refine ⟨0, hfault.line_eq, ?_⟩
      intro raws' hprefix
      rcases List.cons_prefix_iff.1 hprefix with ⟨rest', rfl, -⟩
      exact heq rest'
    · rw [heq, map_cons_eq_error_iff] at h
      rcases ih horder (number + 1) h with ⟨k, hline, hsame⟩
      refine ⟨k + 1, by omega, ?_⟩
      intro raws' hprefix
      rcases List.cons_prefix_iff.1 hprefix with ⟨rest', rfl, hrest⟩
      rw [heq, map_cons_eq_error_iff]
      exact hsame rest' hrest

/-! ## Line numbers -/

theorem mapError_map_cons (f : ScriptError → ScriptError) (e : ScriptEntry)
    (r : Except ScriptError (List ScriptEntry)) :
    (r.map (e :: ·)).mapError f = (r.mapError f).map (e :: ·) := by
  cases r <;> rfl

/-- Line numbers aside, lines are read as their contents are. -/
theorem ofLines_contents (number number' : Nat) (previous : UInt64) (raws : List (List Char)) :
    (ofLines number previous raws).mapError (·.withLine 0) =
      (ofLines number' previous (contents raws)).mapError (·.withLine 0) := by
  induction raws generalizing number number' previous with
  | nil => rfl
  | cons raw rest ih =>
    cases hentry : isEntry (trim raw) with
    | false =>
      rw [contents_of_not_entry hentry]
      simpa [ofLines, hentry] using ih (number + 1) number' previous
    | true =>
      have htrim : trim (trim raw) = trim raw := strip_strip isBlank raw
      rw [contents_of_entry hentry]
      cases hread : readText ScriptEntry.read (trim raw) with
      | error fault => simp [ofLines, hentry, htrim, hread, Except.mapError, ScriptError.withLine]
      | ok e =>
        by_cases hback : e.atMs < previous
        · simp [ofLines, hentry, htrim, hread, hback, Except.mapError, ScriptError.withLine]
        · simp [ofLines, hentry, htrim, hread, hback, mapError_map_cons,
            ih (number + 1) (number' + 1) e.atMs]

/-! ## Scripts -/

/-- A text is a script just if every line with an entry can be read on its own and the times never
go back; the script then has the entries of these lines, in order. Otherwise it fails because of the
first line at fault, with the number that this line has among all lines of the text, and its message
names this number; what stands in the lines after it makes no difference. Blank lines, comments and
blanks around lines, carriage returns among them, change nothing but the number of the line at
fault. -/
theorem ofText_line_by_line (text : String) :
    (∀ es, ofText text = .ok es ↔
      List.Forall₂ Line.Holds (entryLines text) es ∧ InOrder es) ∧
    (∀ err, ofText text = .error err ↔
      ∃ before line after es, entryLines text = before ++ line :: after ∧
        List.Forall₂ Line.Holds before es ∧ InOrder es ∧ line.AtFault es err) ∧
    (∀ err, ofText text = .error err →
      err.message = "line " ++ String.ofList (Nat.toDigits 10 err.line) ++ ": " ++ err.what ∧
      ∀ text' : String, (lines text.toList).take err.line <+: lines text'.toList →
        ofText text' = .error err) ∧
    ∀ text' : String, Relation.ReflTransGen Relaid text.toList text'.toList →
      (ofText text').mapError (·.withLine 0) = (ofText text).mapError (·.withLine 0) := by
  have hnone : InOrder [] := List.isChain_nil
  refine ⟨?_, ?_, ?_, ?_⟩
  · intro es
    exact ofLines_eq_ok_iff hnone 1 (lines text.toList) es
  · intro err
    rw [show ofText text = .error err ↔ FirstFault [] (entryLines text) err from
      ofLines_eq_error_iff hnone 1 (lines text.toList) err]
    simp only [FirstFault, AllHold, List.nil_append, and_assoc]
  · intro err herr
    refine ⟨err.message_eq, ?_⟩
    intro text' hprefix
    rcases ofLines_of_prefix hnone 1 herr with ⟨k, hline, hsame⟩
    rw [hline, Nat.add_comm] at hprefix
    exact hsame _ hprefix
  · intro text' hrelaid
    rw [ofText, ofText, ofLines_contents 1 1, contents_relaid hrelaid, ← ofLines_contents 1 1]

/-- The time of the fourth line goes back. Another end of the text changes nothing, and a comment
in front of it changes nothing but the number of the line. -/
theorem ofText_line_by_line_backwards :
    let text := "#\n\n[500,[\"metrics_collected\",[\"stt\",1]]]\r\n" ++
      "\t[100,[\"metrics_collected\",[\"stt\",1]]]\n?\n"
    let text' := "#\n\n[500,[\"metrics_collected\",[\"stt\",1]]]\r\n" ++
      "\t[100,[\"metrics_collected\",[\"stt\",1]]]\n[700]"
    let err := ScriptError.backwards 4 100 500
    ofText text = .error err ∧ ofText text' = .error err ∧
      (ofText ("#\n" ++ text)).mapError (·.withLine 0) = .error (.backwards 0 100 500) := by
  intro text text' err
  -- the pieces of the texts are spelled out first: joining strings is byte by byte
  have herr : ofText text = .error err := by
    simp only [text, ofText, String.toList_append, String.reduceToList]
    decide +kernel
  have hlines : (lines text.toList).take err.line <+: lines text'.toList := by
    simp only [text, text', String.toList_append, String.reduceToList]
    decide +kernel
  obtain ⟨-, -, hafter, hrelaid⟩ := ofText_line_by_line text
  refine ⟨herr, (hafter err herr).2 text' hlines, ?_⟩
  have hcomment : ∀ s : String, Relaid s.toList ("#\n" ++ s).toList := by
    intro s
    have hline : Relaid ([] ++ s.toList) ([] ++ (['#'] ++ '\n' :: s.toList)) :=
      .line (by simp) (by decide) (by decide)
    rw [String.toList_append]
    exact hline
  rw [hrelaid _ (.single (hcomment text)), herr]
  rfl

end Script

end TurnTaking
