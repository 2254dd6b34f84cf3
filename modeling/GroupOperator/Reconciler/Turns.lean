import GroupOperator.Action
import GroupOperator.Reconciler

/-!
# Taking turns

Events may arrive from several sides at once, and each is handled under one lock: whoever wants to
handle an event takes the lock, carries out the event's activity request by request, and gives the
lock back, however the activity ends.  Between any two steps others may take steps of theirs.

A step that cannot be taken, because another one holds the lock or because there is nothing left to
do, changes nothing.
-/

namespace GroupOperator

/-- How far the handling of an event has come. -/
inductive TurnStage where
  /-- It waits for the lock. -/
  | waiting
  /-- It has the lock, and this is left to do. -/
  | working (rest : Activity Unit)
  /-- It is over. -/
  | gone

/-- The handling of events side by side. -/
structure Turns (σ : Type) where
  /-- The events, and how far the handling of each has come. -/
  calls : List (Event × TurnStage)
  /-- The one that holds the lock. -/
  holder : Option Nat := none
  /-- What the requests are made to. -/
  world : σ
  /-- The requests made so far, each with the one who made it. -/
  trace : List (Nat × Request) := []
  /-- Those that got the lock so far, in order. -/
  entered : List Nat := []

namespace Turns

variable {σ : Type}

/-- The handling of an event comes to a stage. -/
def advance (t : Turns σ) (i : Nat) (e : Event) (stage : TurnStage) : Turns σ :=
  { t with calls := t.calls.set i (e, stage) }

/-- The next step in carrying out an activity. -/
def work (answer : Answering σ) (t : Turns σ) (i : Nat) (e : Event) : Activity Unit → Turns σ
  | .done () | .raised _ => { t.advance i e .gone with holder := none }
  | .note _ next => t.advance i e (.working next)
  | .request r next =>
    let (reply, world) := answer r t.world
    { t.advance i e (.working (next reply)) with world, trace := t.trace ++ [(i, r)] }

/-- The next step in handling an event. -/
def step (home : Value) (answer : Answering σ) (t : Turns σ) (i : Nat) : Turns σ :=
  match t.calls[i]? with
  | some (e, .waiting) =>
    if t.holder = none then
      { t.advance i e (.working (Reconciler.handle home e)) with
        holder := some i, entered := t.entered ++ [i] }
    else t
  | some (e, .working rest) => work answer t i e rest
  | some (_, .gone) | none => t

/-- Steps in the order given. -/
def run (home : Value) (answer : Answering σ) (t : Turns σ) (order : List Nat) : Turns σ :=
  order.foldl (step home answer) t

/-- Events to be handled, before anything was done. -/
def start (events : List Event) (world : σ) : Turns σ :=
  { calls := events.map fun e => (e, .waiting), world }

end Turns

end GroupOperator
