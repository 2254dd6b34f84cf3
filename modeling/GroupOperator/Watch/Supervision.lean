import GroupOperator.Watch.Subscription

/-!
# Supervision

A subscription has two sides that run beside each other.  The *task* serves the watch; it may
establish it, and when serving ends it looks at the flags and perhaps ends the lifetime.  The
*starter* looks again and again at the flags and at the task until it can return or has somebody to
blame; having returned it waits for the end of the lifetime and then, though not for ever, for the
task.  Meanwhile anybody may end the lifetime.

Every look and every change is a step of its own, and the steps of all sides come in any order.  A
step that cannot be taken changes nothing.
-/

namespace GroupOperator

/-- How far the task has come. -/
inductive TaskStage where
  /-- It serves. -/
  | serving
  /-- Serving has ended, in a failure or without one. -/
  | ended (ending : Option Failure)
  /-- Serving has ended without a failure, and the watch was found established. -/
  | established
  /-- It is about to end the lifetime. -/
  | cancelling (ending : Option Failure) (reason : Reason)
  /-- It is over. -/
  | finished (ending : Option Failure)
  deriving DecidableEq, Repr

/-- How far the starter has come. -/
inductive StarterStage where
  /-- It is about to look whether the watch is established. -/
  | lookReady
  /-- It is about to look whether the lifetime is over. -/
  | lookOver
  /-- It is about to look whether the task is over. -/
  | lookTask
  /-- It waits for the end of the lifetime. -/
  | waiting
  /-- It waits for the task. -/
  | joining
  /-- It has returned. -/
  | returned
  /-- It has failed, the watch having ended so. -/
  | blamed (ending : Option Failure)
  deriving DecidableEq, Repr

/-- The two sides of a subscription. -/
structure Supervision where
  /-- The lifetime. -/
  lifetime : Lifetime := {}
  /-- Whether the watch is established. -/
  ready : Bool := false
  /-- The task. -/
  task : TaskStage := .serving
  /-- The starter. -/
  starter : StarterStage := .lookReady
  deriving DecidableEq, Repr

/-- A step of one of the sides, or of somebody else. -/
inductive SupervisionStep where
  /-- The watch is established. -/
  | establish
  /-- Serving ends, in a failure or without one. -/
  | endServing (ending : Option Failure)
  /-- The task goes on after serving. -/
  | task
  /-- The starter goes on. -/
  | starter
  /-- The starter has waited for the task long enough. -/
  | giveUp
  /-- Somebody ends the lifetime. -/
  | cancel (reason : Reason)
  deriving DecidableEq, Repr

namespace Supervision

/-- What the task does after serving. -/
def stepTask (s : Supervision) : Supervision :=
  match s.task with
  | .serving | .finished _ => s
  | .ended (some f) =>
    { s with task := if s.ready then .cancelling (some f) (.failure f) else .finished (some f) }
  | .ended none => { s with task := if s.ready then .established else .finished none }
  | .established =>
    { s with task :=
        if s.lifetime.isOver then .finished none
        else .cancelling none (.failure (.interrupted Subscription.unexpectedEnd)) }
  | .cancelling ending reason =>
    { s with task := .finished ending, lifetime := s.lifetime.cancel reason }

/-- What the starter does. -/
def stepStarter (s : Supervision) : Supervision :=
  match s.starter with
  | .lookReady => { s with starter := if s.ready then .waiting else .lookOver }
  | .lookOver => { s with starter := if s.lifetime.isOver then .waiting else .lookTask }
  | .lookTask =>
    match s.task with
    | .finished ending => { s with starter := .blamed ending }
    | _ => { s with starter := .lookReady }
  | .waiting => if s.lifetime.isOver then { s with starter := .joining } else s
  | .joining =>
    match s.task with
    | .finished _ => { s with starter := .returned }
    | _ => s
  | .returned | .blamed _ => s

/-- One step. -/
def step (s : Supervision) : SupervisionStep → Supervision
  | .establish => if s.task = .serving then { s with ready := true } else s
  | .endServing ending => if s.task = .serving then { s with task := .ended ending } else s
  | .task => s.stepTask
  | .starter => s.stepStarter
  | .giveUp => if s.starter = .joining then { s with starter := .returned } else s
  | .cancel reason => { s with lifetime := s.lifetime.cancel reason }

/-- Steps in the order given. -/
def run (s : Supervision) (steps : List SupervisionStep) : Supervision :=
  steps.foldl step s

/-! ## An end is not taken back -/

theorem isOver_step {s : Supervision} (m : SupervisionStep) (h : s.lifetime.isOver = true) :
    (s.step m).lifetime.isOver = true := by
  cases m with
  | establish => simp only [step]; split <;> exact h
  | endServing ending => simp only [step]; split <;> exact h
  | task =>
    simp only [step, stepTask]
    split <;> try exact h
    exact Lifetime.isOver_cancel _ _
  | starter =>
    simp only [step, stepStarter]
    split <;> try exact h
    · split <;> exact h
    · split <;> exact h
    · split <;> exact h
  | giveUp => simp only [step]; split <;> exact h
  | cancel reason => exact Lifetime.isOver_cancel _ _

end Supervision

end GroupOperator
