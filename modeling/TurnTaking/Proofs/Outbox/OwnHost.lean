import TurnTaking.Proofs.Outbox.Traffic
/-!
# An outbox and its own host

An outbox runs its errands at a host that takes, rejects or misses all requests, or keeps
interruptions at a gate. Here it is shown that whatever such an outbox does is something that can
happen at a host of any kind (`Shows.advance`): an errand that is held at the gate is a call that is
not answered, and one that ends is a call that is.

The main statements are `Shows.served`, that every request is on its way, held or finished, and that
the refusals of the finished ones are counted; and `Outbox.inFlight_finish`, that all of them are
finished once the gate is open and every errand has run.
-/

namespace TurnTaking

/-- What an outbox can do about its errands. -/
inductive Advance where
  /-- One of the errands that can run runs as far as it goes. -/
  | run (i : Nat)
  | settle
  | letPass (n : Nat)
  | openGate
deriving DecidableEq, Repr

/-- Whether a host refuses a request. -/
def HostMode.refuses (m : HostMode) (r : Request) : Bool :=
  (m.refusal? r).isSome

namespace Outbox

/-- The outbox after it has done something about its errands. -/
def advance (o : Outbox) : Advance → Outbox
  | .run i => o.runErrand i
  | .settle => o.settle
  | .letPass n => o.letPass n
  | .openGate => o.openGate

/-! ## Delivering a request -/

/-- The calls of a host after a request. -/
def callsAfter (h : Host) (r : Request) : List Request :=
  if h.mode.takes then h.calls ++ [r] else h.calls

/-- The counters after a host has treated a request. -/
def tallyAfter (o : Outbox) (r : Request) : Tally :=
  if o.host.mode.refuses r then o.tally.count .failure else o.tally

/-- A request that is delivered changes the calls of the host and the counters, and nothing else. -/
theorem deliver_eq (o : Outbox) (r : Request) :
    o.deliver r =
      { o with host := { o.host with calls := callsAfter o.host r }, tally := o.tallyAfter r } := by
  unfold deliver Host.call callsAfter tallyAfter HostMode.refuses
  cases o.host.mode.takes <;> cases hrefused : (o.host.mode.refusal? r).isSome <;>
    simp [hrefused, count]

/-- An errand is held at the gate, or its request is delivered, which may take a permit. -/
theorem proceed_cases (o : Outbox) (e : Errand) :
    (o.host.mode.gates e.request = true ∧ e.pass = false ∧ o.gateOpen = false ∧
        o.proceed e = { o with held := o.held + 1 }) ∨
      ∃ permits, o.proceed e = { o with permits }.deliver e.request := by
  unfold proceed
  split
  · rename_i hgate
    simp only [Bool.and_eq_true, Bool.not_eq_true'] at hgate
    split
    · exact Or.inl ⟨hgate.1.1, hgate.1.2, hgate.2, rfl⟩
    · exact Or.inr ⟨_, rfl⟩
  · exact Or.inr ⟨o.permits, rfl⟩

/-- An errand does not look at the others. -/
theorem proceed_ready (o : Outbox) (rs : List Errand) (e : Errand) :
    { o with ready := rs }.proceed e = { o.proceed e with ready := rs } := by
  unfold proceed
  simp only [deliver_eq]
  split
  · split <;> rfl
  · rfl

theorem eq_interrupt_of_gates {m : HostMode} {r : Request} (h : m.gates r = true) :
    r = .interrupt := by
  simp only [HostMode.gates, Bool.and_eq_true, beq_iff_eq] at h
  exact h.2

theorem answer_ready (o : Outbox) (refusal : Option HostError) :
    (o.answer refusal).ready = o.ready := by
  cases refusal <;> rfl

theorem answer_tally (o : Outbox) (refusal : Option HostError) :
    (o.answer refusal).tally = if refusal.isSome then o.tally.count .failure else o.tally := by
  cases refusal <;> rfl

/-! ## Calls that are not answered -/

/-- The requests that have begun and not ended: those held at the gate, and those let through. -/
def calling (o : Outbox) : List Request :=
  List.replicate o.held .interrupt ++ (o.ready.filter (·.pass)).map (·.request)

theorem calling_split (o : Outbox) {e : Errand} (xs ys : List Errand) (he : e.pass = true) :
    ({ o with ready := xs ++ e :: ys }.calling).Perm
      (e.request :: { o with ready := xs ++ ys }.calling) := by
  simp only [calling, List.filter_append, List.filter_cons_of_pos he, List.map_append,
    List.map_cons]
  rw [← List.append_assoc, ← List.append_assoc]
  exact List.perm_middle

theorem calling_split_of_not_pass (o : Outbox) {e : Errand} (xs ys : List Errand)
    (he : e.pass = false) :
    { o with ready := xs ++ e :: ys }.calling = { o with ready := xs ++ ys }.calling := by
  simp [calling, he]

theorem calling_letPass (o : Outbox) (n : Nat) : (o.letPass n).calling.Perm o.calling := by
  -- those who are let through are some of those who were held
  have hle : min n o.held ≤ o.held := Nat.min_le_right n o.held
  have hsplit : List.replicate o.held Request.interrupt =
      List.replicate (o.held - min n o.held) .interrupt ++
        List.replicate (min n o.held) .interrupt := by
    rw [List.replicate_append_replicate, Nat.sub_add_cancel hle]
  have hpassed : ((List.replicate (min n o.held) (⟨.interrupt, true⟩ : Errand)).filter
      (·.pass)).map (·.request) = List.replicate (min n o.held) .interrupt := by
    simp
  simp only [calling, letPass, List.filter_append, List.map_append, hpassed, hsplit]
  rw [List.append_assoc]
  exact List.Perm.append_left _ List.perm_append_comm

end Outbox

/-- A traffic shows an outbox at its own host: what has begun and not ended is a call that is not
answered, and the host answers as its mode is. -/
structure Shows (o : Outbox) (t : Traffic) : Prop where
  sound : t.Sound
  tally : t.outbox.tally = o.tally
  ready : t.outbox.ready = o.ready.filter (!·.pass)
  waiting : (t.log.underWay.map (t.log.made[·]?)).Perm (o.calling.map some)
  calls : o.host.mode.takes = true →
    o.host.calls.map some = t.log.answered.map fun a => t.log.made[a.1]?
  answers : ∀ a ∈ t.log.answered, ∃ r, t.log.made[a.1]? = some r ∧ a.2 = o.host.mode.refusal? r

namespace Shows

variable {o : Outbox} {t : Traffic}

theorem fresh (mode : HostMode) : Shows (.fresh mode) (.fresh mode) where
  sound := Traffic.sound_fresh mode
  tally := rfl
  ready := rfl
  waiting := List.Perm.refl _
  calls _ := rfl
  answers a ha := by cases ha

theorem count (h : Shows o t) (e : Tally.Entry) : Shows (o.count e) (t.count e) where
  sound := h.sound.count e
  tally := congrArg (·.count e) h.tally
  ready := h.ready
  waiting := h.waiting
  calls := h.calls
  answers := h.answers

/-- A number that stands for a request goes on to do so when more are made. -/
theorem made_append {made : List Request} {n : Nat} {r : Request} (h : made[n]? = some r)
    (more : List Request) : (made ++ more)[n]? = some r := by
  obtain ⟨hlt, -⟩ := List.getElem?_eq_some_iff.1 h
  rw [List.getElem?_append_left hlt]
  exact h

theorem make (h : Shows o t) (r : Request) :
    Shows { o with ready := o.ready ++ [⟨r, false⟩] } (t.make r) where
  sound := h.sound.make r
  tally := h.tally
  ready := by
    show t.outbox.ready ++ [(⟨r, false⟩ : Errand)] =
      (o.ready ++ [(⟨r, false⟩ : Errand)]).filter _
    rw [List.filter_append, h.ready]
    rfl
  waiting := by
    have hsame : t.log.underWay.map ((t.log.made ++ [r])[·]?) =
        t.log.underWay.map (t.log.made[·]?) := by
      refine List.map_congr_left ?_
      intro n hn
      have hmem : t.log.made[n]? ∈ o.calling.map some :=
        h.waiting.subset (List.mem_map_of_mem hn)
      obtain ⟨q, -, hq⟩ := List.mem_map.1 hmem
      rw [← hq]
      exact made_append hq.symm [r]
    show (t.log.underWay.map ((t.log.made ++ [r])[·]?)).Perm _
    rw [hsame]
    simpa [Outbox.calling] using h.waiting
  calls htakes := by
    show o.host.calls.map some = t.log.answered.map fun a => (t.log.made ++ [r])[a.1]?
    rw [h.calls htakes]
    refine List.map_congr_left ?_
    intro a ha
    obtain ⟨q, hq, -⟩ := h.answers a ha
    rw [hq, made_append hq]
  answers a ha := by
    obtain ⟨q, hq, hrefusal⟩ := h.answers a ha
    exact ⟨q, made_append hq [r], hrefusal⟩

theorem dispatch (h : Shows o t) (a : Action) : Shows (o.dispatch a) (t.dispatch a) := by
  unfold Outbox.dispatch Traffic.dispatch Outbox.dispatch Log.dispatch
  cases a.request? with
  | none => exact h.count (.action a)
  | some r => exact (h.count (.action a)).make r

/-! ## An errand runs -/

variable {xs ys : List Errand} {e : Errand}

theorem permits (h : Shows o t) (n : Nat) : Shows { o with permits := n } t :=
  ⟨h.sound, h.tally, h.ready, h.waiting, h.calls, h.answers⟩

/-- An errand that begins is a call that the host receives. -/
theorem begin (h : Shows { o with ready := xs ++ e :: ys } t) (he : e.pass = false) :
    ∃ d, Shows { o with ready := xs ++ ⟨e.request, true⟩ :: ys } (t.deal d) := by
  -- to the host of any kind only those errands can run that have not begun here
  have hready : t.outbox.ready =
      xs.filter (!·.pass) ++ e :: ys.filter (!·.pass) := by
    rw [h.ready]
    simp [he]
  have hplace : t.outbox.ready[(xs.filter (!·.pass)).length]? = some e := by
    simp [hready]
  obtain ⟨n, hn⟩ : ∃ n, t.log.pending[(xs.filter (!·.pass)).length]? = some n := by
    have hlength := congrArg List.length h.sound.pending
    simp only [List.length_map, hready, List.length_append, List.length_cons] at hlength
    exact ⟨_, List.getElem?_eq_getElem (by omega)⟩
  refine ⟨.call (xs.filter (!·.pass)).length, ?_⟩
  have hdeal : t.deal (.call (xs.filter (!·.pass)).length) =
      t.receive (xs.filter (!·.pass)).length n e := by
    simp only [Traffic.deal, hplace, hn]
  rw [hdeal]
  refine ⟨h.sound.receive hplace hn, h.tally, ?_, ?_, h.calls, h.answers⟩
  · show t.outbox.ready.eraseIdx _ = (xs ++ ⟨e.request, true⟩ :: ys).filter (!·.pass)
    rw [hready, List.eraseIdx_append_of_length_le (Nat.le_refl _)]
    simp
  · show ((t.log.underWay ++ [n]).map (t.log.made[·]?)).Perm _
    have hwaiting := h.waiting
    rw [Outbox.calling_split_of_not_pass o xs ys he] at hwaiting
    rw [List.map_append, List.map_singleton, h.sound.made_pending hplace hn]
    refine List.perm_append_comm.trans ((hwaiting.cons _).trans ?_)
    exact ((Outbox.calling_split (e := ⟨e.request, true⟩) o xs ys rfl).map some).symm

/-- An interruption that is held at the gate is a call that is not answered. -/
theorem hold (h : Shows { o with ready := xs ++ e :: ys } t) (he : e.pass = true)
    (hrequest : e.request = .interrupt) :
    Shows { o with ready := xs ++ ys, held := o.held + 1 } t := by
  refine ⟨h.sound, h.tally, ?_, ?_, h.calls, h.answers⟩
  · rw [h.ready]
    simp [he]
  · refine h.waiting.trans ?_
    have hsplit := (Outbox.calling_split o xs ys he).map some
    rw [hrequest] at hsplit
    exact hsplit

/-- An errand that ends is a call that the host answers. -/
theorem serve (h : Shows { o with ready := xs ++ e :: ys } t) (he : e.pass = true) :
    ∃ d, Shows ({ o with ready := xs ++ ys }.deliver e.request) (t.deal d) := by
  have hwaiting := h.waiting.trans ((Outbox.calling_split o xs ys he).map some)
  -- one of the calls under way is for this request
  have hmem : some e.request ∈ t.log.underWay.map (t.log.made[·]?) :=
    hwaiting.symm.subset List.mem_cons_self
  obtain ⟨n, hn, hmade⟩ := List.mem_map.1 hmem
  obtain ⟨j, hj⟩ := List.getElem?_of_mem hn
  refine ⟨.answer j (o.host.mode.refusal? e.request), ?_⟩
  have hdeal : t.deal (.answer j (o.host.mode.refusal? e.request)) =
      t.conclude j n (o.host.mode.refusal? e.request) := by
    simp only [Traffic.deal, hj]
  rw [hdeal, Outbox.deliver_eq]
  refine ⟨h.sound.conclude hj _, ?_, ?_, ?_, ?_, ?_⟩
  · show (t.outbox.answer _).tally = { o with ready := xs ++ ys }.tallyAfter e.request
    rw [Outbox.answer_tally, h.tally]
    rfl
  · show (t.outbox.answer _).ready = (xs ++ ys).filter (!·.pass)
    rw [Outbox.answer_ready, h.ready]
    simp [he]
  · show ((t.log.underWay.eraseIdx j).map (t.log.made[·]?)).Perm _
    have hsplit := ((Traffic.perm_eraseIdx_snoc hj).map (t.log.made[·]?)).trans hwaiting
    rw [List.map_append, List.map_singleton, hmade, List.map_cons] at hsplit
    exact (List.perm_append_comm.trans hsplit).cons_inv
  · intro htakes
    show (Outbox.callsAfter o.host e.request).map some =
      (t.log.answered ++ [(n, o.host.mode.refusal? e.request)]).map fun a => t.log.made[a.1]?
    rw [Outbox.callsAfter, if_pos htakes, List.map_append, List.map_append, h.calls htakes,
      List.map_singleton, List.map_singleton, hmade]
  · intro a ha
    rcases List.mem_append.1 ha with ha | ha
    · exact h.answers a ha
    · rw [List.mem_singleton.1 ha]
      exact ⟨e.request, hmade, rfl⟩

/-- A traffic shows the outbox after the host has done some more. -/
def Follows (o : Outbox) (t : Traffic) : Prop :=
  ∃ ds : List Dealing, Shows o (ds.foldl Traffic.deal t)

theorem follows (h : Shows o t) : Follows o t :=
  ⟨[], h⟩

theorem follows_deals (ds : List Dealing) (h : Follows o (ds.foldl Traffic.deal t)) :
    Follows o t := by
  obtain ⟨more, hshows⟩ := h
  rw [← List.foldl_append] at hshows
  exact ⟨ds ++ more, hshows⟩

theorem follows_deal {d : Dealing} (h : Follows o (t.deal d)) : Follows o t :=
  follows_deals [d] h

/-- What an errand does as it runs is that its call is received, and then either that it is not
answered, which takes a gate, or that it is. -/
theorem proceed (h : Shows { o with ready := xs ++ e :: ys } t) :
    Follows ({ o with ready := xs ++ ys }.proceed e) t := by
  rcases ({ o with ready := xs ++ ys } : Outbox).proceed_cases e with
    ⟨hgates, hpass, -, heq⟩ | ⟨n, heq⟩
  · -- it is held: its call is received and not answered
    rw [heq]
    obtain ⟨d, hbegun⟩ := h.begin hpass
    exact follows_deal (hbegun.hold rfl (Outbox.eq_interrupt_of_gates hgates)).follows
  · -- it ends: one that was held before has been received already
    rw [heq]
    cases hpass : e.pass with
    | true =>
      obtain ⟨d, hserved⟩ := serve (o := { o with permits := n }) (h.permits n) hpass
      exact follows_deal hserved.follows
    | false =>
      obtain ⟨d, hbegun⟩ := h.begin hpass
      obtain ⟨d', hserved⟩ := serve (o := { o with permits := n }) (hbegun.permits n) rfl
      exact follows_deal (follows_deal hserved.follows)

/-! ## Whatever the outbox does -/

/-- Errands that run one after another are followed one after another. -/
theorem foldl_proceed (es : List Errand) (h : Shows { o with ready := es } t) :
    Follows (es.foldl Outbox.proceed { o with ready := [] }) t := by
  induction es generalizing o t with
  | nil => exact h.follows
  | cons e es ih =>
    -- the first errand runs as it would without those behind it
    have hfirst : Shows { o with ready := [] ++ e :: es } t := h
    obtain ⟨ds, hran⟩ := hfirst.proceed
    rw [List.nil_append, Outbox.proceed_ready] at hran
    rw [List.foldl_cons, Outbox.proceed_ready]
    exact follows_deals ds (ih hran)

theorem letPass (h : Shows o t) (n : Nat) : Shows (o.letPass n) t where
  sound := h.sound
  tally := h.tally
  ready := by
    show t.outbox.ready =
      (o.ready ++ List.replicate (min n o.held) (⟨.interrupt, true⟩ : Errand)).filter _
    rw [h.ready]
    simp
  waiting := h.waiting.trans ((o.calling_letPass n).map some).symm
  calls := h.calls
  answers := h.answers

theorem openGate (h : Shows o t) : Shows o.openGate t := by
  have hpassed := h.letPass o.held
  exact ⟨hpassed.sound, hpassed.tally, hpassed.ready, hpassed.waiting, hpassed.calls,
    hpassed.answers⟩

theorem runErrand (h : Shows o t) (i : Nat) : Follows (o.runErrand i) t := by
  unfold Outbox.runErrand
  cases he : o.ready[i]? with
  | none => exact h.follows
  | some e =>
    obtain ⟨hi, hget⟩ := List.getElem?_eq_some_iff.1 he
    have hsplit : o.ready = o.ready.take i ++ e :: o.ready.drop (i + 1) := by
      rw [← hget, List.getElem_cons_drop, List.take_append_drop]
    show Follows ({ o with ready := o.ready.eraseIdx i }.proceed e) t
    rw [List.eraseIdx_eq_take_drop_succ]
    refine proceed ?_
    rw [← hsplit]
    exact h

/-- Whatever an outbox does about its errands is something that a host of any kind can do. -/
theorem advance (h : Shows o t) (a : Advance) : Follows (o.advance a) t := by
  cases a with
  | run i => exact h.runErrand i
  | settle => exact foldl_proceed o.ready h
  | letPass n => exact (h.letPass n).follows
  | openGate => exact h.openGate.follows

/-! ## What became of the requests -/

/-- The requests that are answered: each is the one that was made under its number. -/
theorem exists_finished (h : Shows o t) : ∃ finished : List Request,
    finished.map some = t.log.answered.map fun a => t.log.made[a.1]? := by
  have hanswers := h.answers
  generalize t.log.answered = answered at hanswers
  induction answered with
  | nil => exact ⟨[], rfl⟩
  | cons a answered ih =>
    obtain ⟨r, hr, -⟩ := hanswers a List.mem_cons_self
    obtain ⟨finished, hfinished⟩ := ih fun b hb => hanswers b (List.mem_cons_of_mem _ hb)
    refine ⟨r :: finished, ?_⟩
    rw [List.map_cons, List.map_cons, hr, hfinished]

/-- Every request that was made is on its way or finished. -/
theorem made_perm (h : Shows o t) {finished : List Request}
    (hfinished : finished.map some = t.log.answered.map fun a => t.log.made[a.1]?) :
    t.log.made.Perm (o.ready.map (·.request) ++ List.replicate o.held .interrupt ++ finished) := by
  -- the numbers of the requests are those of the errands that can run, of the calls that are not
  -- answered and of those that are
  have hnumbers : (t.log.pending ++ (t.log.underWay ++ t.log.answered.map (·.1))).Perm
      (List.range t.log.made.length) :=
    (h.sound.answered.append_left _).trans h.sound.numbered
  have hrequests := hnumbers.map (t.log.made[·]?)
  rw [List.map_append, List.map_append, List.map_map, h.sound.pending, h.ready,
    Traffic.map_range_getElem?] at hrequests
  have hfound : t.log.answered.map ((t.log.made[·]?) ∘ (·.1)) = finished.map some :=
    hfinished.symm
  have hunbegun : (o.ready.filter (!·.pass)).map (fun e => some e.request) =
      ((o.ready.filter (!·.pass)).map (·.request)).map some := by
    rw [List.map_map]
    rfl
  have hall := ((h.waiting.append_right _).append_left _).symm.trans hrequests
  rw [hfound, hunbegun, ← List.map_append, ← List.map_append, ← List.append_assoc] at hall
  have hperm := (List.map_perm_map_iff fun _ _ heq => Option.some.inj heq).1 hall
  -- the errands that have not begun and those that have are all the errands
  have hready := (List.filter_append_perm (·.pass) o.ready).map (·.request)
  rw [List.map_append] at hready
  have herrands : ((o.ready.filter (!·.pass)).map (·.request) ++ o.calling).Perm
      (o.ready.map (·.request) ++ List.replicate o.held .interrupt) := by
    refine (List.perm_append_comm.append_left _).trans ?_
    rw [← List.append_assoc]
    exact (List.perm_append_comm.trans hready).append_right _
  exact hperm.symm.trans (herrands.append_right _)

/-- A request that is finished was refused just if the host refuses such requests. -/
theorem refused_eq (h : Shows o t) {finished : List Request}
    (hfinished : finished.map some = t.log.answered.map fun a => t.log.made[a.1]?) :
    t.log.refused = finished.countP o.host.mode.refuses := by
  have hsame : ∀ a ∈ t.log.answered,
      (a.2.isSome = true ↔ (t.log.made[a.1]?).any o.host.mode.refuses = true) := by
    intro a ha
    obtain ⟨r, hr, hrefusal⟩ := h.answers a ha
    rw [hr, hrefusal]
    exact Iff.rfl
  calc t.log.refused
      = t.log.answered.countP fun a => (t.log.made[a.1]?).any o.host.mode.refuses :=
        List.countP_congr hsame
    _ = (t.log.answered.map fun a => t.log.made[a.1]?).countP (·.any o.host.mode.refuses) := by
        rw [List.countP_map]
        rfl
    _ = (finished.map some).countP (·.any o.host.mode.refuses) := by rw [hfinished]
    _ = finished.countP o.host.mode.refuses := by
        rw [List.countP_map]
        rfl

end Shows

namespace Outbox

/-- The account of an outbox at its own host: what became of the requests that some actions have
made, of which some are finished. -/
structure Served (o : Outbox) (acts : List Action) (finished : List Request) : Prop where
  /-- Every request is on its way, waits at the gate or is finished. -/
  requests : (acts.filterMap (·.request?)).Perm
    (o.ready.map (·.request) ++ List.replicate o.held .interrupt ++ finished)
  /-- A host that takes requests has taken those that are finished. -/
  calls : o.host.mode.takes = true → o.host.calls = finished
  /-- The counters tell the actions and the refusals. -/
  counted : o.tally.Tells acts (finished.countP o.host.mode.refuses)

end Outbox

theorem Shows.served {o : Outbox} {t : Traffic} {acts : List Action} (h : Shows o t)
    (hkept : t.Kept acts) : ∃ finished, o.Served acts finished := by
  obtain ⟨finished, hfinished⟩ := h.exists_finished
  refine ⟨finished, ?_, ?_, ?_⟩
  · rw [← hkept.made]
    exact h.made_perm hfinished
  · intro htakes
    have hcalls := h.calls htakes
    rw [← hfinished] at hcalls
    exact List.map_injective_iff.2 (fun _ _ heq => Option.some.inj heq) hcalls
  · rw [← h.refused_eq hfinished, ← h.tally]
    exact hkept.counted

namespace Outbox

variable {o : Outbox} {acts : List Action} {finished : List Request}

/-- Every request is in flight or finished. -/
theorem Served.length (h : o.Served acts finished) :
    acts.count .interrupt + acts.count .clearTurn = o.inFlight + finished.length := by
  have hlength := h.requests.length_eq
  simp only [List.length_append, List.length_map, List.length_replicate] at hlength
  rw [← Traffic.length_requests, hlength, inFlight]

/-- Once nothing is in flight the finished requests are all that were made. -/
theorem Served.perm_of_done (h : o.Served acts finished) (hdone : o.inFlight = 0) :
    finished.Perm (acts.filterMap (·.request?)) := by
  have hready : o.ready = [] := by
    rw [inFlight] at hdone
    exact List.eq_nil_of_length_eq_zero (by omega)
  have hheld : o.held = 0 := by
    rw [inFlight] at hdone
    omega
  have hrequests := h.requests
  rw [hready, hheld] at hrequests
  exact hrequests.symm

/-- Once nothing is in flight every refusal of a request is counted. -/
theorem Served.failures_of_done (h : o.Served acts finished) (hdone : o.inFlight = 0) :
    o.tally.Tells acts ((acts.filterMap (·.request?)).countP o.host.mode.refuses) := by
  rw [← (h.perm_of_done hdone).countP_eq]
  exact h.counted

/-! ## A host goes on as it is -/

theorem mode_proceed (o : Outbox) (e : Errand) : (o.proceed e).host.mode = o.host.mode := by
  rcases o.proceed_cases e with ⟨-, -, -, heq⟩ | ⟨permits, heq⟩
  · rw [heq]
  · rw [heq, deliver_eq]

theorem mode_foldl_proceed (o : Outbox) (es : List Errand) :
    (es.foldl proceed o).host.mode = o.host.mode := by
  induction es generalizing o with
  | nil => rfl
  | cons e es ih => exact (ih (o.proceed e)).trans (o.mode_proceed e)

theorem mode_advance (o : Outbox) (a : Advance) : (o.advance a).host.mode = o.host.mode := by
  cases a with
  | run i =>
    show (o.runErrand i).host.mode = _
    unfold runErrand
    split
    · exact mode_proceed _ _
    · rfl
  | settle => exact mode_foldl_proceed { o with ready := [] } o.ready
  | letPass n => rfl
  | openGate => rfl

/-! ## All errands finish -/

/-- An errand that runs while the gate stands open comes to its end. -/
theorem proceed_of_gateOpen (h : o.gateOpen = true) (e : Errand) :
    (o.proceed e).gateOpen = true ∧ (o.proceed e).inFlight = o.inFlight := by
  rcases o.proceed_cases e with ⟨-, -, hshut, -⟩ | ⟨permits, heq⟩
  · rw [h] at hshut
    cases hshut
  · rw [heq, deliver_eq]
    exact ⟨h, rfl⟩

theorem foldl_proceed_of_gateOpen (h : o.gateOpen = true) (es : List Errand) :
    (es.foldl proceed o).inFlight = o.inFlight := by
  induction es generalizing o with
  | nil => rfl
  | cons e es ih =>
    obtain ⟨hopen, hsame⟩ := proceed_of_gateOpen h e
    rw [List.foldl_cons, ih hopen, hsame]

/-- Once an outbox is finished nothing is in flight. -/
theorem inFlight_finish (o : Outbox) : o.finish.inFlight = 0 := by
  have hopen : { o.openGate with ready := [] }.gateOpen = true := rfl
  have hheld : o.openGate.held = 0 := by simp [openGate, letPass]
  show (o.openGate.ready.foldl proceed { o.openGate with ready := [] }).inFlight = 0
  rw [foldl_proceed_of_gateOpen hopen]
  show 0 + o.openGate.held = 0
  rw [hheld]

end Outbox

end TurnTaking
