import GroupOperator.Watch.Replay
import GroupOperator.Watch.Serving

/-!
# The pacing of the redelivery

What comes of a script can be told without the task that paces the redelivery: a watch is sent on
*errands*.  A notification is an errand to deliver it.  A tick is an errand to redeliver all that is
remembered at that moment, as long as there is a task to take the tick and no redelivery has failed;
after that, ticks are nothing.  The script ends where a delivery fails or where following does, but
a redelivery that fails does not end it.

What comes of the task at the end is told wait by wait.  When the script is over, well or in a
failure, the task is cancelled and waited for.  A task that is over already cannot be cancelled, and
the wait ends as the task has ended.  A wait that ends in the cancellation counts as good; one that
ends in anything worse comes before the end of the script.
-/

namespace GroupOperator

/-! ## Errands -/

/-- Something a watch is asked to do, and the watch as it is at that moment. -/
structure Errand (σ : Type) where
  /-- What it is asked to do. -/
  task : WatchTask
  /-- What it remembers, and the handler's state. -/
  watching : Watching σ

namespace Errand

variable {σ : Type}

/-- How an errand goes. -/
def outcome (handler : Handler σ) (e : Errand σ) : Outcome (Watching σ) Unit :=
  Watching.perform handler e.task e.watching

/-- Whether an errand is a redelivery that is gone through to its end. -/
def isCompleted (handler : Handler σ) (e : Errand σ) : Bool :=
  e.task = .redeliver && (e.outcome handler).result.isOk

/-- What a redelivery fails in, if the errand is one that fails. -/
def fatal? (handler : Handler σ) (e : Errand σ) : Option Failure :=
  match e.task, (e.outcome handler).result with
  | .redeliver, .error f => some f
  | _, _ => none

end Errand

/-- What comes of a script. -/
structure Account (σ : Type) where
  /-- The errands, first one first. -/
  errands : List (Errand σ)
  /-- What the watch has become. -/
  watching : Watching σ
  /-- How the script itself ends. -/
  ending : Except Failure Unit

namespace Account

variable {σ : Type}

/-- An account with one more errand in front. -/
def after (e : Errand σ) (a : Account σ) : Account σ :=
  { a with errands := e :: a.errands }

/-- The account of a script; `live` says whether a task takes the ticks. -/
def ofScript (handler : Handler σ) : Bool → List Happening → Watching σ → Account σ
  | _, [], w => ⟨[], w, .ok ()⟩
  | live, .notification type object :: rest, w =>
    let delivery : Errand σ := ⟨.deliver type object, w⟩
    match (delivery.outcome handler).result with
    | .ok () => (ofScript handler live rest (delivery.outcome handler).state).after delivery
    | .error f => ⟨[delivery], (delivery.outcome handler).state, .error f⟩
  | true, .tick :: rest, w =>
    let redelivery : Errand σ := ⟨.redeliver, w⟩
    (ofScript handler (redelivery.outcome handler).result.isOk rest
      (redelivery.outcome handler).state).after redelivery
  | false, .tick :: rest, w => ofScript handler false rest w
  | _, .failed f :: _, w => ⟨[], w, .error f⟩
  | live, _ :: rest, w => ofScript handler live rest w

/-- How many redeliveries are gone through to their end. -/
def completed (handler : Handler σ) (a : Account σ) : Nat :=
  a.errands.countP (·.isCompleted handler)

/-- What the task has died of, if it has. -/
def death? (handler : Handler σ) (a : Account σ) : Option Failure :=
  a.errands.findSome? (·.fatal? handler)

end Account

/-! ## Cancelling and waiting -/

/-- How something that is waited for comes to its end. -/
inductive Completion where
  /-- Well. -/
  | returned
  /-- In a failure. -/
  | raised (f : Failure)
  /-- By being cancelled. -/
  | cancelled
  deriving DecidableEq, Repr

namespace Completion

/-- The completion that a result is. -/
def ofExcept : Except Failure Unit → Completion
  | .ok () => .returned
  | .error f => .raised f

/-- A cancellation counts as good. -/
def forgiving : Completion → Completion
  | .cancelled => .returned
  | c => c

/-- How a block ends that is left through a closing part: the closing part's end comes first, unless
it is good. -/
def closedBy (block closing : Completion) : Completion :=
  match closing with
  | .returned => block
  | worse => worse

end Completion

/-- What waiting for the pacing task comes to when it has been cancelled. -/
def Pacer.awaitCancelled : Pacer → Completion
  | .absent => .returned
  | .pausing => .cancelled
  | .ended f => .raised f

end GroupOperator
