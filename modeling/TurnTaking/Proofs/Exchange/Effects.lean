import TurnTaking.Exchange
/-!
# What a step of an exchange does to its queue

A step of an exchange does one thing to the queue, or nothing, and its reply says which
(`step_effect`). Proofs about all steps go through these cases and do not look into the steps any
more.
-/

namespace TurnTaking

namespace Exchange

variable {ε : Type}

/-- Whether a step is about who holds on to the exchange, or about the counters, and hands no event
in or out. -/
def Step.aside : Step ε → Bool
  | .enlist _ | .double _ _ | .takeReader | .dropSender _ | .dropHub | .dropReader | .counts _ =>
    true
  | _ => false

/-- Whether a reply hands an event back. -/
def Reply.refuses : Reply ε → Bool
  | .refused _ _ => true
  | _ => false

/-- What a step can do to the queue, and the reply to it. -/
inductive Effect (x : Exchange ε) : Step ε → Inbox String ε → Reply ε → Prop where
  | aside {s r} (hs : s.aside = true) (hr : r.refuses = false) : Effect x s x.inbox r
  | close {s r} (hs : s.aside = true) (hr : r.refuses = false) : Effect x s x.inbox.close r
  | noSender {s} : Effect x s x.inbox .noSender
  | send {name a} :
    Effect x (.send name a) (x.inbox.send a).1 (replyTo a.event (x.inbox.send a).2)
  | fill {name time events} :
    Effect x (.fill name time events) (fillFrom x.inbox time events 0 (x.inbox.free + 1)).1
      (fillFrom x.inbox time events 0 (x.inbox.free + 1)).2
  | sendOrLeave {name a} :
    Effect x (.sendWaiting name none a) (x.inbox.sendOrLeave a).1
      (replyTo a.event (x.inbox.sendOrLeave a).2)
  | sendWaiting {name ticket a} :
    Effect x (.sendWaiting name (some ticket) a) (x.inbox.sendWaiting ticket a).1
      (replyTo a.event (x.inbox.sendWaiting ticket a).2)
  | poll {ticket q o a} (hp : x.inbox.poll ticket = some (q, o, a)) :
    Effect x (.poll ticket) q (replyTo a.event o)
  | nobodyWaits {ticket} : Effect x (.poll ticket) x.inbox .nobodyWaits
  | abandon {ticket was} : Effect x (.abandon ticket) (x.inbox.abandon ticket) (.dropped was)
  | receive {q a} (hr : x.inbox.receive = some (a, q)) :
    Effect x .receive q (.delivered x.inbox.received a)
  | unread {r} (hr : r = .ended ∨ r = .waiting ∨ r = .noReader) : Effect x .receive x.inbox r

theorem step_effect (x : Exchange ε) (s : Step ε) :
    Effect x s (x.step s).1.inbox (x.step s).2 := by
  cases s with
  | enlist name =>
    simp only [step]
    split <;> exact .aside rfl rfl
  | double source name =>
    simp only [step]
    split <;> exact .aside rfl rfl
  | takeReader =>
    simp only [step]
    split <;> exact .aside rfl rfl
  | dropSender name => exact .aside rfl rfl
  | dropHub =>
    simp only [step]
    split
    · -- the reader goes with the hub if nobody has taken it
      split
      · exact .close rfl rfl
      · exact .aside rfl rfl
    · exact .aside rfl rfl
  | dropReader =>
    simp only [step]
    split
    · exact .close rfl rfl
    · exact .aside rfl rfl
  | send name a =>
    simp only [step]
    split
    · exact .send
    · exact .noSender
  | fill name time events =>
    simp only [step]
    split
    · exact .fill
    · exact .noSender
  | sendWaiting name ticket a =>
    simp only [step]
    split
    · cases ticket with
      | none => exact .sendOrLeave
      | some ticket => exact .sendWaiting
    · exact .noSender
  | poll ticket =>
    simp only [step]
    split
    · rename_i hp
      exact .poll hp
    · exact .nobodyWaits
  | abandon ticket => exact .abandon
  | receive =>
    simp only [step]
    split
    · split
      · rename_i hr
        exact .receive hr
      · split
        · exact .unread (Or.inl rfl)
        · exact .unread (Or.inr (Or.inl rfl))
    · exact .unread (Or.inr (Or.inr rfl))
  | counts name => exact .aside rfl rfl

end Exchange

end TurnTaking
