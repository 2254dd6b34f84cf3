import GroupOperator.Watch.Delivery

/-!
# Replaying events

Whoever sees only the events that deliveries hand over can rebuild what the watch remembers: an
added object goes to the end under its key, a modified one takes the place of what its key held, and
a deleted one takes its key away.

Here are that reader, and the life of a watch as a row of deliveries and redeliveries, to be
compared.
-/

namespace GroupOperator

/-- Puts an object in the place of what a key holds; the key stays as it was. -/
def Store.replace (s : Store) (k : Key) (g : ServiceGroup) : Store :=
  ⟨s.entries.map fun entry => if entry.1.same k then (entry.1, g) else entry⟩

/-- Puts an object at the end under a key. -/
def Store.append (s : Store) (k : Key) (g : ServiceGroup) : Store :=
  ⟨s.entries ++ [(k, g)]⟩

/-- What a reader of events remembers after one more. -/
def Store.replayEvent (s : Store) (e : Event) : Store :=
  let key := Key.ofGroup e.group
  match e.kind with
  | .added => s.append key e.group
  | .modified => s.replace key e.group
  | .deleted => s.erase key

/-- What a reader of events remembers. -/
def Store.replay (events : List Event) : Store :=
  events.foldl Store.replayEvent {}

/-- Something a watch is asked to do. -/
inductive WatchTask where
  /-- Deliver a notification. -/
  | deliver (type body : Value)
  /-- Redeliver everything. -/
  | redeliver
  deriving DecidableEq, Repr

namespace Watching

variable {σ : Type}

/-- Does what a watch is asked to do. -/
def perform (handler : Handler σ) : WatchTask → Action (Watching σ) Unit
  | .deliver type body => deliver handler type body
  | .redeliver => redeliver handler

/-- A watch at work after a row of tasks, and the events that deliveries handed over on the way.  A
task that fails is followed by the next one. -/
def performAll (handler : Handler σ) : List WatchTask → Watching σ → Watching σ × List Event
  | [], w => (w, [])
  | task :: rest, w =>
    let outcome := perform handler task w
    let (later, events) := performAll handler rest outcome.state
    match task with
    | .deliver .. => (later, outcome.chronicle.events ++ events)
    | .redeliver => (later, events)

end Watching

end GroupOperator
