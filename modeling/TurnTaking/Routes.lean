import TurnTaking.Event
/-!
# Routes

A table of handlers by kind of event. The handlers of a kind run in the order in which they were
added, each on the state that the one before has left.
-/

namespace TurnTaking

open Time

/-- What is done about an event. -/
abbrev Handler (σ : Type) := σ → Event → Instant → σ

/-- The handlers of each kind, in the order in which they were added. -/
structure Routes (σ : Type) where
  handlersFor : EventKind → List (Handler σ)

namespace Routes

variable {σ : Type}

/-- The table without handlers. -/
def empty : Routes σ :=
  ⟨fun _ => []⟩

/-- The table with one more handler for a kind. -/
def on (r : Routes σ) (kind : EventKind) (h : Handler σ) : Routes σ :=
  ⟨fun k => if k = kind then r.handlersFor k ++ [h] else r.handlersFor k⟩

/-- The number of handlers of a kind. -/
def count (r : Routes σ) (kind : EventKind) : Nat :=
  (r.handlersFor kind).length

/-- The number of handlers. -/
def size (r : Routes σ) : Nat :=
  EventKind.all.foldr (fun k n => r.count k + n) 0

/-- Whether there is no handler. -/
def isEmpty (r : Routes σ) : Bool :=
  r.size == 0

/-- Runs the handlers of an event's kind. -/
def dispatch (r : Routes σ) (s : σ) (e : Event) (now : Instant) : σ :=
  (r.handlersFor e.kind).foldl (fun s h => h s e now) s

/-- The table as a message shows it. Kinds without handlers are left out; of several kinds none
comes first, so then there is no text. -/
def describe? (r : Routes σ) : Option String :=
  let shown := EventKind.all.filter (0 < r.count ·)
  let entry (k : EventKind) := k.title ++ ": " ++ String.ofList (Nat.toDigits 10 (r.count k))
  if shown.length ≤ 1 then
    some ("HandlerRegistry \x7b handlers: \x7b" ++ String.join (shown.map entry) ++ "\x7d \x7d")
  else none

@[simp] theorem handlersFor_on_self (r : Routes σ) (k : EventKind) (h : Handler σ) :
    (r.on k h).handlersFor k = r.handlersFor k ++ [h] := by
  simp [on]

theorem handlersFor_on_of_ne (r : Routes σ) {k l : EventKind} (hne : l ≠ k) (h : Handler σ) :
    (r.on k h).handlersFor l = r.handlersFor l := by
  simp [on, hne]

end Routes

end TurnTaking
