import TurnTaking.Proofs.Replay.Tracking
/-!
# A replay in any order of steps

Whoever feeds a script, the conversation that reads it, and the errands to the host take their steps
in any order: the feeder may have to wait for a place any number of times or never, the conversation
may lag behind it or not, and errands may run at once, late, and in any order. Whatever the order, a
performance that is over has printed what a conversation prints that handles the script directly,
and every performance can be brought to its end.

The main statement is `performance_eq_direct`.
-/

namespace TurnTaking

open Time

/-- What a feeder is doing. -/
inductive Feeder where
  /-- It has sent an entry and goes on to the next one. -/
  | between
  /-- It waits for a place. -/
  | waiting
  /-- It has sent everything and dropped its sender. -/
  | gone
  /-- It could not set its clock, or an entry was refused. -/
  | failed
deriving DecidableEq, Repr

/-- What a feeder does next once it knows what has become of its entry. -/
def Feeder.after : Outcome → Feeder
  | .queued => .between
  | .waiting => .waiting
  | .refused _ => .failed

/-- How much a feeder has to do once everything is sent. -/
def Feeder.left : Feeder → Nat
  | .gone => 0
  | _ => 1

/-- A sitting, and whoever feeds a script to it. -/
structure Performance where
  sitting : Sitting
  clock : Clock
  unsent : List ScriptEntry
  feeder : Feeder

namespace Performance

/-- Whose turn it is. -/
inductive Turn where
  /-- The feeder sends its next entry, comes back for a place, or leaves. -/
  | feed
  /-- The conversation reads an event and handles it, or finds that the queue has ended. -/
  | read
  /-- One of the errands that can run runs. -/
  | errand (i : Nat)
  /-- The conversation concludes if it has stopped reading and no errand is left. -/
  | close
deriving DecidableEq, Repr

/-- The performance after the feeder has sent an entry by its clock, if that could be set. -/
def sendEntry (p : Performance) (entry : ScriptEntry) (rest : List ScriptEntry) :
    Except ClockError Clock → Performance
  | .error _ => { p with feeder := .failed }
  | .ok clock =>
    let (inbox, outcome) := p.sitting.inbox.sendWaiting () ⟨clock.now, entry.event⟩
    { sitting := { p.sitting with inbox }, clock, unsent := rest, feeder := .after outcome }

/-- The performance after the feeder's turn. -/
def feed (p : Performance) : Performance :=
  match p.feeder with
  | .between =>
    match p.unsent with
    | [] => { p with feeder := .gone }
    | entry :: rest =>
      p.sendEntry entry rest (p.clock.setOffset (.ofMillis entry.atMs.toNat))
  | .waiting =>
    match p.sitting.inbox.poll () with
    | some (inbox, outcome, _) =>
      { p with sitting := { p.sitting with inbox }, feeder := .after outcome }
    | none => p
  | .gone => p
  | .failed => p

/-- The performance after the conversation's turn. -/
def read (p : Performance) : Performance :=
  if p.sitting.stopped.isSome then p
  else
    match p.sitting.inbox.receive with
    | some (a, inbox) =>
      let conversation := p.sitting.conversation.handle p.sitting.routes a.event a.time
      { p with sitting := { p.sitting with inbox, conversation } }
    | none => if p.feeder = .gone then { p with sitting := p.sitting.stop } else p

/-- The conversation after an errand has run. -/
def runErrand (c : Conversation Unit) (i : Nat) : Conversation Unit :=
  { c with context := { c.context with outbox := c.context.outbox.runErrand i } }

/-- The performance after a turn. -/
def turn (p : Performance) : Turn → Performance
  | .feed => p.feed
  | .read => p.read
  | .errand i =>
    { p with
      sitting := { p.sitting with conversation := runErrand p.sitting.conversation i } }
  | .close => { p with sitting := p.sitting.closeIfDone }

/-- The performance after some turns. -/
def run (p : Performance) (turns : List Turn) : Performance :=
  turns.foldl turn p

/-- A performance before the first entry is sent. -/
def start (inbox : Inbox Unit Event) (settings : Settings) (origin : Instant)
    (entries : List ScriptEntry) : Performance :=
  ⟨.fresh inbox settings .willing, .startingAt origin, entries, .between⟩

theorem run_append (p : Performance) (turns more : List Turn) :
    p.run (turns ++ more) = (p.run turns).run more :=
  List.foldl_append

/-! ## What every turn keeps -/

variable {settings : Settings} {origin : Instant} {entries : List ScriptEntry} {p : Performance}

/-- What the feeder is doing is seen from the queue. -/
def Matches (q : Inbox Unit Event) (unsent : List ScriptEntry) : Feeder → Prop
  | .between => q.bookings = []
  | .waiting => ∃ a, q.bookings = [((), a)]
  | .gone => q.bookings = [] ∧ unsent = []
  | .failed => False

/-- What holds of a performance that is not over yet. -/
structure Running (settings : Settings) (origin : Instant) (entries : List ScriptEntry)
    (p : Performance) : Prop where
  tracks : p.sitting.Tracks settings (entries.map (·.arrival origin))
    (p.unsent.map (·.arrival origin))
  clock : p.clock.origin = origin
  room : ∀ e ∈ p.unsent, origin.nanos + (Duration.ofMillis e.atMs.toNat).nanos < Instant.limit
  feeder : Matches p.sitting.inbox p.unsent p.feeder
  stopped : p.sitting.stopped = none ∨
    p.sitting.stopped = some 0 ∧ p.feeder = .gone ∧ p.sitting.inbox.queue = []

/-- What holds of a performance that is over. -/
structure Over (settings : Settings) (origin : Instant) (entries : List ScriptEntry)
    (p : Performance) : Prop where
  feeder : p.feeder = .gone
  stopped : p.sitting.stopped = some 0
  outcome : p.sitting.outcome.isSome = true
  ready : p.sitting.conversation.context.outbox.ready = []
  output : Replay.outputOf p.sitting = Replay.directOutput settings origin entries

theorem running_start {n : Nat} (hn : 0 < n) (settings : Settings) (origin : Instant)
    (entries : List ScriptEntry)
    (hroom : ∀ e ∈ entries, origin.nanos + (Duration.ofMillis e.atMs.toNat).nanos <
      Instant.limit) :
    Running settings origin entries (start (.withPlaces n) settings origin entries) where
  tracks := Sitting.tracks_fresh hn settings _
  clock := rfl
  room := hroom
  feeder := rfl
  stopped := Or.inl rfl

/-- Nothing happens any more once a performance is over. -/
theorem Over.turn (h : Over settings origin entries p) (t : Turn) : p.turn t = p := by
  cases t with
  | feed =>
    show p.feed = p
    unfold Performance.feed
    rw [h.feeder]
  | read =>
    show p.read = p
    unfold Performance.read
    rw [h.stopped]
    rfl
  | errand i =>
    have hsame : runErrand p.sitting.conversation i = p.sitting.conversation := by
      unfold runErrand
      rw [Outbox.runErrand_of_le (by simp [h.ready])]
    show { p with
      sitting := { p.sitting with conversation := runErrand p.sitting.conversation i } } = p
    rw [hsame]
  | close =>
    have hsame : p.sitting.closeIfDone = p.sitting := by
      obtain ⟨r, hr⟩ := Option.isSome_iff_exists.1 h.outcome
      unfold Sitting.closeIfDone
      rw [h.stopped, hr]
    show { p with sitting := p.sitting.closeIfDone } = p
    rw [hsame]

/-- How much is left to do. Each entry is still to be sent, then to be queued, then to be read, and
then may leave an errand. -/
def left (p : Performance) : Nat :=
  4 * p.unsent.length + 3 * p.sitting.inbox.bookings.length + 2 * p.sitting.inbox.queue.length +
    p.sitting.conversation.context.outbox.ready.length + p.feeder.left +
    p.sitting.stopped.elim 1 fun _ => 0

/-! ### The feeder -/

theorem Running.matches_of (h : Running settings origin entries p) {f : Feeder}
    (hfeeder : p.feeder = f) : Matches p.sitting.inbox p.unsent f := by
  rw [← hfeeder]
  exact h.feeder

/-- The conversation reads on as long as the feeder is there. -/
theorem Running.not_stopped (h : Running settings origin entries p) (hfeeder : p.feeder ≠ .gone) :
    p.sitting.stopped = none := by
  rcases h.stopped with hnone | ⟨-, hgone, -⟩
  · exact hnone
  · exact absurd hgone hfeeder

/-- The feeder gets the next entry into the queue or waits with it. -/
theorem Running.feed_cons (h : Running settings origin entries p) (hfeeder : p.feeder = .between)
    {e : ScriptEntry} {rest : List ScriptEntry} (hunsent : p.unsent = e :: rest) :
    Running settings origin entries p.feed ∧ p.feed.left < p.left := by
  have hidle : p.sitting.inbox.bookings = [] := h.matches_of hfeeder
  have hstopped := h.not_stopped (by simp [hfeeder])
  have htracks := h.tracks
  rw [hunsent, List.map_cons] at htracks
  have hset : p.clock.setOffset (.ofMillis e.atMs.toNat) =
      .ok { p.clock with now := (e.arrival origin).time } := by
    have hfits := h.room e (by simp [hunsent])
    rw [← h.clock] at hfits ⊢
    exact Replay.setOffset_of_fits hfits
  have hfeed : p.feed =
      { sitting := { p.sitting with
          inbox := (p.sitting.inbox.sendWaiting () (e.arrival origin)).1 }
        clock := { p.clock with now := (e.arrival origin).time }
        unsent := rest
        feeder := .after (p.sitting.inbox.sendWaiting () (e.arrival origin)).2 } := by
    have hsend : p.feed = p.sendEntry e rest (p.clock.setOffset (.ofMillis e.atMs.toNat)) := by
      unfold Performance.feed
      rw [hfeeder, hunsent]
    rw [hsend, hset]
    rfl
  rw [hfeed]
  have hroom : ∀ e' ∈ rest, origin.nanos + (Duration.ofMillis e'.atMs.toNat).nanos <
      Instant.limit := by
    intro e' he'
    exact h.room e' (by simp [hunsent, he'])
  -- stated for every instant, so that nothing is computed about the one at hand
  have hclock : ∀ now, ({ p.clock with now } : Clock).origin = origin := fun _ => h.clock
  refine ⟨⟨htracks.send hidle, hclock _, hroom, ?_, Or.inl hstopped⟩, ?_⟩
  · show Matches (p.sitting.inbox.sendWaiting () (e.arrival origin)).1 rest
      (.after (p.sitting.inbox.sendWaiting () (e.arrival origin)).2)
    rcases h.tracks.serving.sendWaiting_cases hidle () (e.arrival origin) with
      ⟨hout, -, hbookings⟩ | ⟨hout, -, hbookings⟩
    · rw [hout]
      exact hbookings
    · rw [hout]
      exact ⟨_, hbookings⟩
  · unfold left
    rcases h.tracks.serving.sendWaiting_cases hidle () (e.arrival origin) with
      ⟨hout, hqueue, hbookings⟩ | ⟨hout, hqueue, hbookings⟩
    · simp [hout, hqueue, hbookings, hunsent, hidle, hfeeder, Feeder.after, Feeder.left]
      omega
    · simp [hout, hqueue, hbookings, hunsent, hidle, hfeeder, Feeder.after, Feeder.left]
      omega

/-- A feeder that waits comes back to the queue; it has its place if there is nothing to read. -/
theorem Running.feed_waiting (h : Running settings origin entries p)
    (hfeeder : p.feeder = .waiting) :
    Running settings origin entries p.feed ∧
      (p.sitting.inbox.queue = [] → p.feed.left < p.left) := by
  obtain ⟨a, hbookings⟩ := h.matches_of hfeeder
  have hstopped := h.not_stopped (by simp [hfeeder])
  obtain ⟨r, o, hpoll, hcases⟩ := h.tracks.serving.poll_cases hbookings
  have hfeed : p.feed =
      { p with sitting := { p.sitting with inbox := r }, feeder := .after o } := by
    unfold Performance.feed
    simp only [hfeeder, hpoll]
  rw [hfeed]
  refine ⟨⟨h.tracks.poll hbookings hpoll, h.clock, h.room, ?_, Or.inl hstopped⟩, ?_⟩
  · rcases hcases with ⟨rfl, -, hidle⟩ | ⟨rfl, rfl, -⟩
    · exact hidle
    · exact ⟨a, hbookings⟩
  · intro hempty
    rcases hcases with ⟨rfl, hqueue, hidle⟩ | ⟨-, -, hfull⟩
    · simp [left, hqueue, hidle, hbookings, hfeeder, Feeder.after, Feeder.left]
      omega
    · exact absurd hempty hfull

/-- A feeder that has sent everything leaves. -/
theorem Running.feed_nil (h : Running settings origin entries p) (hfeeder : p.feeder = .between)
    (hunsent : p.unsent = []) :
    Running settings origin entries p.feed ∧ p.feed.left < p.left := by
  have hfeed : p.feed = { p with feeder := .gone } := by
    unfold Performance.feed
    simp only [hfeeder, hunsent]
  have hidle : p.sitting.inbox.bookings = [] := h.matches_of hfeeder
  have hstopped := h.not_stopped (by simp [hfeeder])
  rw [hfeed]
  refine ⟨⟨h.tracks, h.clock, h.room, ⟨hidle, hunsent⟩, Or.inl hstopped⟩, ?_⟩
  simp [left, hfeeder, Feeder.left]

theorem Running.feed (h : Running settings origin entries p) :
    Running settings origin entries p.feed := by
  cases hfeeder : p.feeder with
  | between =>
    cases hunsent : p.unsent with
    | nil => exact (h.feed_nil hfeeder hunsent).1
    | cons e rest => exact (h.feed_cons hfeeder hunsent).1
  | waiting => exact (h.feed_waiting hfeeder).1
  | gone =>
    have hsame : p.feed = p := by
      unfold Performance.feed
      rw [hfeeder]
    rw [hsame]
    exact h
  | failed => exact (h.matches_of hfeeder).elim

/-! ### The conversation -/

/-- An event leaves one errand at most. -/
theorem length_ready_hear (c : Context) (e : Event) (now : Instant) :
    (c.hear e now).outbox.ready.length ≤ c.outbox.ready.length + 1 := by
  cases e with
  | phaseChange q => exact Nat.le_succ _
  | metrics m => exact Nat.le_succ _
  | utterance u =>
    show (((c.count .event).arbitrate u now).1).outbox.ready.length ≤ _
    rcases (c.count .event).arbitrate_cases u now with ⟨-, heq⟩ | ⟨decision, -, heq⟩
    · rw [heq]
      exact Nat.le_succ _
    · rw [heq]
      show ((c.count .event).outbox.dispatch decision.action).ready.length ≤ _
      unfold Outbox.dispatch
      cases decision.action.request? with
      | none => exact Nat.le_succ _
      | some r => exact Nat.le_of_eq List.length_append

theorem Running.read_some (h : Running settings origin entries p)
    (hstopped : p.sitting.stopped = none) {a : Arrival Event} {r : Inbox Unit Event}
    (hreceive : p.sitting.inbox.receive = some (a, r)) :
    Running settings origin entries p.read ∧ p.read.left < p.left := by
  have hbookings := Inbox.bookings_of_receive hreceive
  have hread : p.read =
      { p with
        sitting := { p.sitting with
          inbox := r
          conversation := p.sitting.conversation.handle p.sitting.routes a.event a.time } } := by
    unfold Performance.read
    simp [hstopped, hreceive]
  rw [hread]
  refine ⟨⟨h.tracks.read hreceive, h.clock, h.room, ?_, Or.inl hstopped⟩, ?_⟩
  · show Matches r p.unsent p.feeder
    have hmatches := h.feeder
    unfold Matches at hmatches ⊢
    rw [hbookings]
    exact hmatches
  · have hlength := congrArg List.length (Inbox.queue_of_receive hreceive).1
    have hready := length_ready_hear p.sitting.conversation.context a.event a.time
    rw [List.length_cons] at hlength
    unfold left
    rw [h.tracks.routes, Conversation.handle_standardRoutes]
    simp only [hbookings]
    omega

/-- The conversation stops reading once the queue has ended. -/
theorem Running.read_none (h : Running settings origin entries p)
    (hstopped : p.sitting.stopped = none) (hgone : p.feeder = .gone)
    (hqueue : p.sitting.inbox.queue = []) :
    Running settings origin entries p.read ∧ p.read.left < p.left := by
  obtain ⟨hstop, hstopeq⟩ := h.tracks.stop hstopped
  have hreceive := Inbox.receive_eq_none_iff.2 hqueue
  have hread : p.read = { p with sitting := { p.sitting with stopped := some 0 } } := by
    unfold Performance.read
    simp [hstopped, hreceive, hgone, hstopeq]
  rw [hread]
  rw [hstopeq] at hstop
  refine ⟨⟨hstop, h.clock, h.room, h.feeder, Or.inr ⟨rfl, hgone, hqueue⟩⟩, ?_⟩
  simp [left, hstopped]

theorem Running.read (h : Running settings origin entries p) :
    Running settings origin entries p.read := by
  cases hstopped : p.sitting.stopped with
  | some n =>
    have hsame : p.read = p := by
      unfold Performance.read
      simp [hstopped]
    rw [hsame]
    exact h
  | none =>
    cases hreceive : p.sitting.inbox.receive with
    | some found =>
      obtain ⟨a, r⟩ := found
      exact (h.read_some hstopped hreceive).1
    | none =>
      by_cases hgone : p.feeder = .gone
      · exact (h.read_none hstopped hgone (Inbox.receive_eq_none_iff.1 hreceive)).1
      · have hsame : p.read = p := by
          unfold Performance.read
          simp [hstopped, hreceive, hgone]
        rw [hsame]
        exact h

/-! ### Errands and the end -/

theorem Running.errand (h : Running settings origin entries p) (i : Nat) :
    Running settings origin entries (p.turn (.errand i)) := by
  have hlike := Context.like_runErrand h.tracks.willing i
  exact ⟨h.tracks.converse (h.tracks.willing.runErrand i).1 hlike, h.clock, h.room, h.feeder,
    h.stopped⟩

theorem Running.left_errand_lt (h : Running settings origin entries p)
    (hready : p.sitting.conversation.context.outbox.ready ≠ []) :
    (p.turn (.errand 0)).left < p.left := by
  have hlength := h.tracks.willing.length_runErrand (List.length_pos_iff.2 hready)
  simp only [left, Performance.turn, runErrand]
  omega

/-- A conversation that has stopped reading and has no errand left concludes. -/
theorem Running.close_of_done (h : Running settings origin entries p)
    (hstopped : p.sitting.stopped = some 0) (hgone : p.feeder = .gone)
    (hqueue : p.sitting.inbox.queue = [])
    (hready : p.sitting.conversation.context.outbox.ready = []) :
    Over settings origin entries (p.turn .close) := by
  obtain ⟨hbookings, hunsent⟩ := h.matches_of hgone
  have htracks := h.tracks
  rw [hunsent] at htracks
  obtain ⟨houtcome, hstopped', hready', houtput⟩ :=
    htracks.closeIfDone hstopped hqueue hbookings hready
  refine ⟨hgone, hstopped', houtcome, hready', ?_⟩
  rw [Replay.directOutput_eq]
  exact houtput

theorem Running.close (h : Running settings origin entries p) :
    Running settings origin entries (p.turn .close) ∨ Over settings origin entries (p.turn .close) := by
  rcases h.stopped with hstopped | ⟨hstopped, hgone, hqueue⟩
  · left
    have hsame : p.sitting.closeIfDone = p.sitting := by
      unfold Sitting.closeIfDone
      rw [hstopped]
    show Running settings origin entries { p with sitting := p.sitting.closeIfDone }
    rw [hsame]
    exact h
  · -- with an errand left the conversation waits
    by_cases hready : p.sitting.conversation.context.outbox.ready = []
    · exact Or.inr (h.close_of_done hstopped hgone hqueue hready)
    · left
      have hsame : p.sitting.closeIfDone = p.sitting := by
        unfold Sitting.closeIfDone
        rw [hstopped, h.tracks.outcome]
        simp [Outbox.inFlight, hready]
      show Running settings origin entries { p with sitting := p.sitting.closeIfDone }
      rw [hsame]
      exact h

/-! ### Whole performances -/

/-- A performance runs, or it is over. -/
def Kept (settings : Settings) (origin : Instant) (entries : List ScriptEntry)
    (p : Performance) : Prop :=
  Running settings origin entries p ∨ Over settings origin entries p

theorem Kept.turn (h : Kept settings origin entries p) (t : Turn) :
    Kept settings origin entries (p.turn t) := by
  rcases h with hrunning | hover
  · cases t with
    | feed => exact Or.inl hrunning.feed
    | read => exact Or.inl hrunning.read
    | errand i => exact Or.inl (hrunning.errand i)
    | close => exact hrunning.close
  · rw [hover.turn t]
    exact Or.inr hover

theorem Kept.run (h : Kept settings origin entries p) (turns : List Turn) :
    Kept settings origin entries (p.run turns) := by
  induction turns generalizing p with
  | nil => exact h
  | cons t turns ih => exact ih (h.turn t)

/-- As long as a performance runs, somebody can take it nearer to its end. -/
theorem Running.exists_turn (h : Running settings origin entries p) :
    ∃ t, Over settings origin entries (p.turn t) ∨ (p.turn t).left < p.left := by
  rcases h.stopped with hstopped | ⟨hstopped, hgone, hqueue⟩
  · cases hreceive : p.sitting.inbox.receive with
    | some found =>
      obtain ⟨a, r⟩ := found
      exact ⟨.read, Or.inr (h.read_some hstopped hreceive).2⟩
    | none =>
      -- with nothing to read it is the feeder's turn, unless it is gone
      have hqueue := Inbox.receive_eq_none_iff.1 hreceive
      cases hfeeder : p.feeder with
      | between =>
        cases hunsent : p.unsent with
        | nil => exact ⟨.feed, Or.inr (h.feed_nil hfeeder hunsent).2⟩
        | cons e rest => exact ⟨.feed, Or.inr (h.feed_cons hfeeder hunsent).2⟩
      | waiting => exact ⟨.feed, Or.inr ((h.feed_waiting hfeeder).2 hqueue)⟩
      | gone => exact ⟨.read, Or.inr (h.read_none hstopped hfeeder hqueue).2⟩
      | failed => exact (h.matches_of hfeeder).elim
  · by_cases hready : p.sitting.conversation.context.outbox.ready = []
    · exact ⟨.close, Or.inl (h.close_of_done hstopped hgone hqueue hready)⟩
    · exact ⟨.errand 0, Or.inr (h.left_errand_lt hready)⟩

theorem Kept.exists_over (h : Kept settings origin entries p) :
    ∃ turns, Over settings origin entries (p.run turns) := by
  -- the induction is on how much is left to do
  induction hn : p.left using Nat.strongRecOn generalizing p with
  | _ n ih =>
    subst hn
    rcases h with hrunning | hover
    · obtain ⟨t, hover | hlt⟩ := hrunning.exists_turn
      · exact ⟨[t], hover⟩
      · obtain ⟨turns, hturns⟩ := ih _ hlt (Kept.turn (Or.inl hrunning) t) rfl
        exact ⟨t :: turns, hturns⟩
    · exact ⟨[], hover⟩

/-- For every script, all settings, every capacity that can be had and every beginning of the clock
that leaves room for the script: a replay that does not keep to the times of its script prints what
a conversation prints that handles its entries one after the other, each at its time, and is then
finished. So does every performance, in whatever order the feeder, the conversation and its errands
take their turns, once it is over; the feeder never fails, and every performance can be brought to
its end. What is printed does not depend on when the clock began; its account has as many events as
the script has entries, and no refusals. -/
theorem performance_eq_direct (settings : Settings) (capacity : Nat)
    (hcapacity : capacity ≤ Inbox.capacityLimit) (origin : Instant) (entries : List ScriptEntry)
    (hroom : ∀ e ∈ entries, origin.nanos + (Duration.ofMillis e.atMs.toNat).nanos <
      Instant.limit) :
    Replay.play settings capacity origin .zero entries =
        .printed (Replay.directOutput settings origin entries) ∧
      (∃ inbox, Inbox.ofCapacity capacity = .ok inbox ∧ ∀ turns : List Turn,
        let p := (start inbox settings origin entries).run turns
        p.feeder ≠ .failed ∧
          (p.sitting.outcome.isSome →
            Replay.outputOf p.sitting = Replay.directOutput settings origin entries) ∧
          ∃ more, ((start inbox settings origin entries).run
            (turns ++ more)).sitting.outcome.isSome) ∧
      (∀ origin', Replay.directOutput settings origin' entries =
        Replay.directOutput settings origin entries) ∧
      (Replay.direct settings origin entries).1.refusals = 0 ∧
      (Replay.direct settings origin entries).1.tally.received = UInt64.ofNat entries.length := by
  refine ⟨Replay.play_eq_directOutput hcapacity settings origin entries hroom,
    ⟨_, Inbox.ofCapacity_of_le hcapacity, ?_⟩, ?_, Replay.received_direct settings origin entries⟩
  · intro turns p
    have hpos : 0 < max capacity Inbox.leastCapacity :=
      Nat.lt_of_lt_of_le (by decide) (Nat.le_max_right _ _)
    have hkept : Kept settings origin entries p :=
      Kept.run (Or.inl (running_start hpos settings origin entries hroom)) turns
    refine ⟨?_, ?_, ?_⟩
    · intro hfailed
      rcases hkept with hrunning | hover
      · exact hrunning.matches_of hfailed
      · rw [hover.feeder] at hfailed
        cases hfailed
    · intro houtcome
      rcases hkept with hrunning | hover
      · rw [hrunning.tracks.outcome] at houtcome
        cases houtcome
      · exact hover.output
    · obtain ⟨more, hmore⟩ := hkept.exists_over
      refine ⟨more, ?_⟩
      rw [run_append]
      exact hmore.outcome
  · intro origin'
    rw [Replay.directOutput_origin, Replay.directOutput_origin settings origin]

/-- Ten entries for eight places: the ninth has to wait until two events have been read. The agent
is interrupted while it speaks, and the turn is cleared. -/
theorem performance_eq_direct_waiting :
    let entries : List ScriptEntry :=
      [⟨0, .phaseChange ⟨.idle, .speaking, .onArrival⟩⟩,
        ⟨100, .utterance ⟨"Stop!", true, none, .onArrival⟩⟩,
        ⟨150, .utterance ⟨"yeah", true, none, .onArrival⟩⟩] ++
        List.replicate 7 ⟨200, .metrics (.stt 5)⟩
    let turns : List Turn :=
      List.replicate 9 .feed ++ [.read, .read, .feed, .errand 0, .read, .feed, .feed] ++
        List.replicate 7 .read ++ [.errand 0, .read, .close]
    0 ≤ Inbox.capacityLimit ∧
      (∀ e ∈ entries, (7 : Nat) + (Duration.ofMillis e.atMs.toNat).nanos < Instant.limit) ∧
      ∃ inbox, Inbox.ofCapacity 0 = .ok inbox ∧
        let p := (start inbox .standard ⟨7⟩ entries).run turns
        ((start inbox .standard ⟨7⟩ entries).run (turns.take 9)).feeder = .waiting ∧
          p.sitting.outcome.isSome ∧
          Replay.outputOf p.sitting = Replay.directOutput .standard ⟨7⟩ entries ∧
          (Replay.direct .standard ⟨7⟩ entries).1.tally = ⟨10, 2, 0, 1, 1, 0, 0⟩ := by
  intro entries turns
  have hroom : ∀ e ∈ entries, (7 : Nat) + (Duration.ofMillis e.atMs.toNat).nanos <
      Instant.limit := by
    decide
  obtain ⟨-, ⟨inbox, hinbox, hrun⟩, -⟩ :=
    performance_eq_direct .standard 0 (by decide) ⟨7⟩ entries hroom
  refine ⟨by decide, hroom, inbox, hinbox, ?_⟩
  cases hinbox
  have hover : ((start (.withPlaces 8) .standard ⟨7⟩ entries).run turns).sitting.outcome.isSome := by
    decide +kernel
  exact ⟨by decide +kernel, hover, (hrun turns).2.1 hover, by decide +kernel⟩

end Performance

end TurnTaking
