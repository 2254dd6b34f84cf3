import GroupOperator.Watch.Serving

/-!
# Subscriptions

A subscription serves its watch in the background for a lifetime, and can be started once.

Starting returns when the watch is established or the lifetime is over.  If serving ends before
either, the watch could not be registered, and starting fails with whatever serving ended in.
Serving that ends after the watch was established ends the lifetime too: with its failure as the
reason, or, if nothing failed and nobody ended the lifetime, as an interruption.

A start looks at the flags and at the task again and again while the task runs beside it.  This is
left out here: the task is run to its end, and then the start is judged, once and by the flags
alone.  That is how a start ends which is slow enough.  One that is faster may be unlucky in its
looks and fail although it should not.  `GroupOperator.Watch.Session` has the looks, one by one
(`Subscription.startInTurns`), and `GroupOperator.Proofs.Overtaking` says where the two agree.
-/

namespace GroupOperator

/-- A watch to be served, and how far that has gone. -/
structure Subscription (σ : Type) where
  /-- Whether it was started. -/
  begun : Bool := false
  /-- What is served. -/
  serving : Serving σ

namespace Subscription

variable {σ : Type}

/-- The failure of starting twice. -/
def alreadyStarted : Failure :=
  .interrupted "ServiceGroup watch already started"

/-- The text about serving that ends though nothing failed. -/
def unexpectedEnd : String :=
  "ServiceGroup watch stopped unexpectedly"

/-- What a start fails with if serving ended, in a failure or without one, before the watch was
established. -/
def registrationFailure (w : Watch) (ending : Option Failure) : Failure :=
  .call (.str "watch") (.str Schema.plural) (w.namespaceName.orElse (.str "*"))
    (ending.getD (.interrupted "watch exited before becoming ready")) .null

/-- The record of a failure that serving ended in. -/
def stopped (f : Failure) : Record :=
  Watching.record .error ("ServiceGroup watch stopped: " ++ f.message) (some f)

/-- The failure, if any, in what something came to. -/
def failure? : Except Failure Unit → Option Failure
  | .error f => some f
  | .ok () => none

/-- Draws the consequences when serving has ended, in a failure or without one. -/
def wrapUp (ending : Option Failure) : Action (Serving σ) (Option Failure) := do
  match ending with
  | some f => do
    .tell (stopped f)
    if (← .state).ready then Serving.cancel (.failure f)
  | none => do
    let s ← .state
    if s.ready && !s.lifetime.isOver then
      .tell (Watching.record .error unexpectedEnd)
      Serving.cancel (.failure (.interrupted unexpectedEnd))
  return ending

/-- The background task: serves, and draws the consequences.  Its result is the failure that serving
ended in. -/
def background (w : Watch) (handler : Handler σ) (script : List Happening) :
    Action (Serving σ) (Option Failure) := do
  wrapUp (failure? (← (Serving.serve w handler script).attempt))

/-- What a start comes to: nothing is wrong if the watch was established or the lifetime is over. -/
def judge (w : Watch) (ending : Option Failure) : Action (Serving σ) Unit := do
  let s ← .state
  if s.ready || s.lifetime.isOver then .done ()
  else .raise (registrationFailure w ending)

/-- Does something with what is served. -/
def onServing {α : Type} (p : Action (Serving σ) α) : Action (Subscription σ) α :=
  Action.within Subscription.serving (fun serving s => { s with serving }) p

/-- Starts the subscription. -/
def start (w : Watch) (handler : Handler σ) (script : List Happening) :
    Action (Subscription σ) Unit := do
  if (← .state).begun then .raise alreadyStarted
  else
    .update fun s => { s with begun := true }
    onServing do
      let ending ← background w handler script
      judge w ending

end Subscription

end GroupOperator
