import GroupOperator.Watch.Delivery

/-!
# Delivery beside redelivery

Notifications are delivered on one side while all that is remembered is redelivered on another.  A
delivery takes two steps, the change of the store and the call of the handler.  A redelivery takes
one step in which it makes a copy of what is remembered, and one for every object in the copy.  The
steps of both sides come in any order.

A handler that fails ends the delivery or the redelivery it was called for.
-/

namespace GroupOperator

/-- The two sides of a watch at work. -/
structure Interleaving (σ : Type) where
  /-- What is remembered, and the handler's state. -/
  watching : Watching σ
  /-- The notifications still to be delivered, each a type and a body. -/
  notifications : List (Value × Value)
  /-- The event of the delivery under way, its handler still to be called. -/
  pending : Option Event := none
  /-- How many redeliveries are still to begin. -/
  redeliveries : Nat
  /-- What the redelivery under way still has to hand over. -/
  remaining : List ServiceGroup := []

/-- One of the two sides. -/
inductive Side where
  /-- The side of delivery. -/
  | delivery
  /-- The side of redelivery. -/
  | redelivery
  deriving DecidableEq, Repr

namespace Interleaving

variable {σ : Type}

/-- Whether neither side is in the middle of something. -/
def isQuiet (s : Interleaving σ) : Bool :=
  s.pending.isNone && s.remaining.isEmpty

/-- Calls the handler; the state it leaves, and whether it failed. -/
def call (handler : Handler σ) (e : Event) (w : Watching σ) : Watching σ × Bool :=
  let outcome := Watching.hand handler e w
  (outcome.state, outcome.result.isOk)

/-- A step of the side of delivery. -/
def stepDelivery (handler : Handler σ) (s : Interleaving σ) : Interleaving σ :=
  match s.pending, s.notifications with
  | some e, _ => { s with pending := none, watching := (call handler e s.watching).1 }
  | none, (type, body) :: rest =>
    match s.watching.store.receive type body with
    | .accepted store e =>
      { s with notifications := rest, pending := some e, watching := { s.watching with store } }
    | _ => { s with notifications := rest }
  | none, [] => s

/-- A step of the side of redelivery. -/
def stepRedelivery (handler : Handler σ) (s : Interleaving σ) : Interleaving σ :=
  match s.remaining, s.redeliveries with
  | g :: rest, _ =>
    let (watching, fine) := call handler (Watching.redelivery g) s.watching
    { s with watching, remaining := if fine then rest else [] }
  | [], n + 1 => { s with redeliveries := n, remaining := s.watching.store.groups }
  | [], 0 => s

/-- A step of one side. -/
def step (handler : Handler σ) (s : Interleaving σ) : Side → Interleaving σ
  | .delivery => s.stepDelivery handler
  | .redelivery => s.stepRedelivery handler

/-- Steps in the order given. -/
def run (handler : Handler σ) (s : Interleaving σ) (order : List Side) : Interleaving σ :=
  order.foldl (step handler) s

end Interleaving

end GroupOperator
