import GroupOperator.Action
import GroupOperator.Watch.Store

/-!
# Delivery

A watch turns notifications into events and hands them to a handler, one at a time.  The store is
changed first and the handler called afterwards, so a handler that fails leaves the store as if it
had not.

Redelivery hands over every remembered object as if it had just been added, in the order of the
store as it is when the redelivery begins, and stops at the first failure.
-/

namespace GroupOperator

/-- What is done with an event. -/
abbrev Handler (σ : Type) :=
  Event → Action σ Unit

/-- A watch at work: what it remembers, and the state its handler works on. -/
structure Watching (σ : Type) where
  /-- What the watch remembers. -/
  store : Store := {}
  /-- The handler's state. -/
  outside : σ

namespace Watching

variable {σ : Type}

/-- A record of the watch. -/
def record (level : Level) (message : String) (cause : Option Failure := none) : Record :=
  ⟨level, .watch, message, cause⟩

/-- Hands an event to the handler. -/
def hand (handler : Handler σ) (e : Event) : Action (Watching σ) Unit := do
  .emit (.handed e)
  Action.within Watching.outside (fun outside w => { w with outside }) (handler e)

/-- The failure of a key of which `part` cannot be a part. -/
def keyFailure (part : Value) : Failure :=
  .badType ("unhashable type: \x27" ++ part.typeName ++ "\x27")

/-- Carries out what the reception of a notification asks for. -/
def settle (handler : Handler σ) : Reception → Action (Watching σ) Unit
  | .dropped r => .tell (record .error ("Dropping event: " ++ r.message))
  | .unkeyed part => .raise (keyFailure part)
  | .ignored type g =>
    .tell (record .debug ("Ignoring " ++ type.text ++ " event for " ++ g.link.text))
  | .accepted store e => do
    .update fun w => { w with store }
    hand handler e

/-- Receives a notification and hands on the event it becomes, if it becomes one. -/
def deliver (handler : Handler σ) (type body : Value) : Action (Watching σ) Unit := do
  settle handler ((← .state).store.receive type body)

/-- The event that a remembered object is redelivered as. -/
def redelivery (g : ServiceGroup) : Event :=
  ⟨.added, g, none⟩

/-- Hands over every remembered object. -/
def redeliver (handler : Handler σ) : Action (Watching σ) Unit := do
  let known := (← .state).store.groups
  .tell (record .debug ("Resyncing " ++ toString known.length ++ " ServiceGroup(s)"))
  Action.forEach (fun g => hand handler (redelivery g)) known

end Watching

/-! ## Watching on behalf of the reconciler -/

/-- A handler that carries out an activity for every event, requests being answered by a cluster. -/
def Handler.ofActivity {σ : Type} (answer : Answering σ) (handle : Event → Activity Unit) :
    Handler σ :=
  fun e => (handle e).run answer

/-- A handler whose calls end as prepared: in the failure given, or without one; and without one
when nothing more is prepared. -/
def Handler.rehearsed : Handler (List (Option Failure)) :=
  fun _ prepared =>
    match prepared with
    | some f :: rest => ⟨.error f, [], rest⟩
    | none :: rest => ⟨.ok (), [], rest⟩
    | [] => ⟨.ok (), [], []⟩

end GroupOperator
