import Mathlib.Data.List.Nodup
import Mathlib.Logic.Function.Basic
import TurnTaking.Proofs.Exchange.Ledger
/-!
# Producers and a reader

A crowd is an exchange with some producers, each with a sender of its own and a list of events to
hand in, and one reader. A producer takes its events one after the other. It sends an event as often
as it is handed back, or waits for a place, and goes on to the next one when it is told that the
event was accepted. Which producer tries next, and when the reader reads, is left open: it is a list
of moves.

What the producers are told and what the reader is given is recorded; the record has no part in what
happens.
-/

namespace TurnTaking

open Time

/-! ## Lists put together from several -/

/-- A list that is put together from those of several owners, each kept in its own order. -/
def Interleaves {α : Type} (names : List String) (parts : String → List α) (whole : List α) :
    Prop :=
  ∃ owned : List (String × α), owned.map (·.2) = whole ∧ (∀ o ∈ owned, o.1 ∈ names) ∧
    ∀ p ∈ names, (owned.filter (·.1 == p)).map (·.2) = parts p

/-- A list is made up of what its owners have in it. -/
theorem perm_flatMap_filter {α : Type} {names : List String} (hnames : names.Nodup)
    {owned : List (String × α)} (howners : ∀ o ∈ owned, o.1 ∈ names) :
    owned.Perm (names.flatMap fun p => owned.filter (·.1 == p)) := by
  induction names generalizing owned with
  | nil =>
    have hnil : owned = [] := by
      refine List.eq_nil_iff_forall_not_mem.2 ?_
      intro o ho
      cases howners o ho
    rw [hnil]
    exact List.Perm.refl _
  | cons n names ih =>
    rw [List.nodup_cons] at hnames
    have hothers : ∀ o ∈ owned.filter (!·.1 == n), o.1 ∈ names := by
      intro o ho
      obtain ⟨hmem, hne⟩ := List.mem_filter.1 ho
      rcases List.mem_cons.1 (howners o hmem) with rfl | hin
      · simp at hne
      · exact hin
    -- what the others have does not change when the first one's part is taken out
    have hparts : (names.flatMap fun p => (owned.filter (!·.1 == n)).filter (·.1 == p)) =
        names.flatMap fun p => owned.filter (·.1 == p) := by
      refine List.flatMap_congr ?_
      intro p hp
      have hpn : p ≠ n := by
        rintro rfl
        exact hnames.1 hp
      rw [List.filter_filter]
      refine List.filter_congr ?_
      intro o _
      by_cases ho : o.1 = p
      · simp [ho, hpn]
      · simp [ho]
    have hrest := ih hnames.2 hothers
    rw [hparts] at hrest
    rw [List.flatMap_cons]
    exact (List.filter_append_perm _ owned).symm.trans (hrest.append_left _)

/-- Nothing is lost and nothing comes twice. -/
theorem Interleaves.perm {α : Type} {names : List String} {parts : String → List α}
    {whole : List α} (h : Interleaves names parts whole) (hnames : names.Nodup) :
    whole.Perm (names.flatMap parts) := by
  obtain ⟨owned, rfl, howners, hparts⟩ := h
  have hflat : names.flatMap parts =
      (names.flatMap fun p => owned.filter (·.1 == p)).map (·.2) := by
    rw [List.map_flatMap]
    refine List.flatMap_congr ?_
    intro p hp
    exact (hparts p hp).symm
  rw [hflat]
  exact (perm_flatMap_filter hnames howners).map _

/-- If one can tell from the elements whose they are, then those of one owner are its list. -/
theorem Interleaves.filter_eq {α : Type} {names : List String} {parts : String → List α}
    {whole : List α} (h : Interleaves names parts whole) {owner : α → String}
    (howner : ∀ p ∈ names, ∀ x ∈ parts p, owner x = p) {p : String} (hp : p ∈ names) :
    whole.filter (owner · == p) = parts p := by
  obtain ⟨owned, rfl, howners, hparts⟩ := h
  have htells : ∀ o ∈ owned, owner o.2 = o.1 := by
    intro o ho
    refine howner o.1 (howners o ho) o.2 ?_
    rw [← hparts o.1 (howners o ho)]
    refine List.mem_map_of_mem (List.mem_filter.2 ⟨ho, ?_⟩)
    simp
  rw [← hparts p hp, List.filter_map]
  congr 1
  refine List.filter_congr ?_
  intro o ho
  show (owner o.2 == p) = (o.1 == p)
  rw [htells o ho]

/-! ## Producers -/

/-- How a producer hands in an event. -/
inductive Manner where
  /-- It sends the event again each time it is handed back. -/
  | insisting
  /-- It waits for a place. -/
  | patient
deriving DecidableEq, Repr

/-- An event to be handed in, and how. -/
structure Job (ε : Type) where
  manner : Manner
  event : ε
deriving DecidableEq, Repr

/-- An exchange, what its producers have still to do, and what they and the reader were told. -/
structure Crowd (ε : Type) where
  exchange : Exchange ε
  /-- What each producer has still to hand in. -/
  todo : String → List (Job ε)
  /-- Which producers wait for a place. -/
  waits : String → Bool
  ledger : Exchange.Ledger ε
  /-- The events that were accepted, each with the producer that was told so. -/
  accepted : List (String × ε)
  /-- How many attempts were refused. -/
  refused : Nat
  /-- Whether the reader was told that the queue has ended. -/
  ended : Bool

namespace Crowd

variable {ε : Type}

/-- What can happen next. -/
inductive Move where
  /-- A producer tries to hand in its next event, or looks after the one it waits with. -/
  | attempt (name : String) (now : Instant)
  /-- A producer with nothing left to do drops its sender. -/
  | leave (name : String)
  | receive

/-- The crowd after a step of its exchange. -/
def carry (c : Crowd ε) (s : Exchange.Step ε) : Crowd ε :=
  { c with exchange := (c.exchange.step s).1, ledger := c.ledger.enter s (c.exchange.step s).2 }

/-- How a producer goes about its next event. -/
def attemptStep (c : Crowd ε) (name : String) (job : Job ε) (now : Instant) : Exchange.Step ε :=
  match job.manner with
  | .insisting => .send name ⟨now, job.event⟩
  | .patient =>
    if c.waits name then .poll name else .sendWaiting name (some name) ⟨now, job.event⟩

/-- What a producer makes of a reply. An event that is handed back is the next one to hand in. -/
def heed (c : Crowd ε) (name : String) (job : Job ε) (rest : List (Job ε)) :
    Exchange.Reply ε → Crowd ε
  | .done =>
    { c with
      todo := Function.update c.todo name rest
      waits := Function.update c.waits name false
      accepted := c.accepted ++ [(name, job.event)] }
  | .waiting => { c with waits := Function.update c.waits name true }
  | .refused _ event =>
    { c with
      todo := Function.update c.todo name (⟨job.manner, event⟩ :: rest)
      waits := Function.update c.waits name false
      refused := c.refused + 1 }
  | _ => c

/-- The crowd after a move. -/
def move (c : Crowd ε) : Move → Crowd ε
  | .attempt name now =>
    match c.todo name with
    | [] => c
    | job :: rest =>
      let s := c.attemptStep name job now
      (c.carry s).heed name job rest (c.exchange.step s).2
  | .leave name =>
    match c.todo name with
    | [] => c.carry (.dropSender name)
    | _ :: _ => c
  | .receive =>
    match (c.exchange.step .receive).2 with
    | .ended => { c.carry .receive with ended := true }
    | _ => c.carry .receive

/-- The crowd after some moves. -/
def run (c : Crowd ε) (moves : List Move) : Crowd ε :=
  moves.foldl move c

/-- A crowd at its start: each producer has been given a sender, and the reader has been taken. -/
def start (q : Inbox String ε) (names : List String) (work : String → List (Job ε)) : Crowd ε where
  exchange := ((Exchange.withHub q).run (names.map .enlist ++ [.takeReader, .dropHub])).1
  todo name := if name ∈ names then work name else []
  waits _ := false
  ledger := .empty
  accepted := []
  refused := 0
  ended := false

theorem run_append (c : Crowd ε) (moves more : List Move) :
    c.run (moves ++ more) = (c.run moves).run more :=
  List.foldl_append

/-- Those who have a sender once everyone has been given one. -/
def enlisted (senders names : List String) : List String :=
  names.foldl (fun senders name => name :: senders.erase name) senders

theorem mem_enlisted {senders names : List String} {p : String} :
    p ∈ enlisted senders names ↔ p ∈ senders ∨ p ∈ names := by
  induction names generalizing senders with
  | nil => simp [enlisted]
  | cons name names ih =>
    have hcons : enlisted senders (name :: names) = enlisted (name :: senders.erase name) names :=
      rfl
    rw [hcons, ih, List.mem_cons, List.mem_cons]
    by_cases h : p = name
    · simp [h]
    · simp [h, List.mem_erase_of_ne h]

theorem run_enlist {x : Exchange ε} (hhub : x.hub = true) (hreader : x.reader = .untaken)
    (names : List String) :
    (x.run (names.map .enlist ++ [.takeReader, .dropHub])).1 =
      ⟨x.inbox, enlisted x.senders names, false, .taken⟩ := by
  induction names generalizing x with
  | nil => simp [Exchange.run, Exchange.step, hhub, hreader, enlisted]
  | cons name names ih =>
    have hstep : x.step (.enlist name) = (x.addSender name, .done) := by
      simp [Exchange.step, hhub]
    show ((x.step (.enlist name)).1.run _).1 = _
    rw [hstep]
    exact ih hhub hreader

theorem exchange_start (q : Inbox String ε) (names : List String) (work : String → List (Job ε)) :
    (start q names work).exchange = ⟨q, enlisted [] names, false, .taken⟩ :=
  run_enlist rfl rfl names

end Crowd

end TurnTaking
