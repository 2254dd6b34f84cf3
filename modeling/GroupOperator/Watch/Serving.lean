import GroupOperator.Lifetime
import GroupOperator.Watch.Delivery

/-!
# Serving

Serving a watch means following the cluster's notifications for as long as they last, and beside
that redelivering all that is remembered at a steady period.  What the cluster and the surroundings
do meanwhile is a list of *happenings*, and serving reacts to one after the other.

The redelivery is paced by a task of its own, which exists only if the period is greater than zero.
A redelivery that fails ends that task and nothing else; but when serving ends, the failure of the
task is what serving ends in, whatever else it might have ended in.
-/

namespace GroupOperator

/-- What is watched and how often it is redelivered. -/
structure Watch where
  /-- The namespace whose groups are watched; all of them if it is empty. -/
  namespaceName : Value := .str ""
  /-- Seconds between redeliveries; none take place unless this is greater than zero. -/
  resyncPeriod : Value := .float (.ofRatio false 60 1)
  deriving DecidableEq, Repr

/-- Whether a watch redelivers at all.  A period that counts as no number cannot be judged. -/
def Watch.redelivers? (w : Watch) : Except Failure Bool :=
  match w.resyncPeriod.number? with
  | some period => .ok period.isPositive
  | none => .error (.incomparable ">" w.resyncPeriod)

/-- A signal by which the process is told to end. -/
inductive Signal where
  /-- From the terminal. -/
  | interrupt
  /-- From whoever runs the process. -/
  | terminate
  deriving DecidableEq, Repr

namespace Signal

/-- The name of a signal. -/
def name : Signal → String
  | .interrupt => "SIGINT"
  | .terminate => "SIGTERM"

/-- The signal that a name stands for, there being two of them. -/
def ofName (name : String) : Signal :=
  if name = interrupt.name then .interrupt else .terminate

instance : Coe String Signal := ⟨ofName⟩

end Signal

/-- Something that happens while a watch is served. -/
inductive Happening where
  /-- Serving starts up. -/
  | startup
  /-- Serving logs in, with the keyword arguments named. -/
  | login (arguments : List String)
  /-- The watch is established. -/
  | ready
  /-- A notification arrives. -/
  | notification (type object : Value)
  /-- The current pause of the redelivery ends. -/
  | tick
  /-- Nothing, until the lifetime is over; whoever owns it ends it if nobody else has. -/
  | wait (reason : Reason)
  /-- Following the notifications fails. -/
  | failed (f : Failure)
  /-- Somebody ends the lifetime. -/
  | cancel (reason : Reason)
  /-- The process is told to end. -/
  | signal (signal : Signal)
  deriving DecidableEq, Repr

/-- The task that paces the redelivery. -/
inductive Pacer where
  /-- There is none. -/
  | absent
  /-- It is pausing. -/
  | pausing
  /-- It has ended in a failure. -/
  | ended (f : Failure)
  deriving DecidableEq, Repr

/-- A watch being served. -/
structure Serving (σ : Type) where
  /-- What is remembered, and the handler's state. -/
  watching : Watching σ
  /-- The lifetime it is served for. -/
  lifetime : Lifetime := {}
  /-- Whether the watch is established. -/
  ready : Bool := false
  /-- The task that paces the redelivery. -/
  pacer : Pacer := .absent
  /-- Whether serving came to wait for the end of a lifetime that was not over. -/
  waited : Bool := false

namespace Serving

variable {σ : Type}

/-- Does something with what is remembered. -/
def onWatching {α : Type} (p : Action (Watching σ) α) : Action (Serving σ) α :=
  Action.within Serving.watching (fun watching s => { s with watching }) p

/-- Ends the lifetime, unless it is over. -/
def cancel (r : Reason) : Action (Serving σ) Unit :=
  .update fun s => { s with lifetime := s.lifetime.cancel r }

/-- The pacing task begins a pause. -/
def pause (w : Watch) : Action (Serving σ) Unit := do
  .emit (.paused w.resyncPeriod)
  .update fun s => { s with pacer := .pausing }

/-- The pause of the pacing task ends: one redelivery, and then the next pause or the end. -/
def tick (w : Watch) (handler : Handler σ) : Action (Serving σ) Unit := do
  match (← .state).pacer with
  | .pausing => do
    match ← (onWatching (Watching.redeliver handler)).attempt with
    | .ok () => pause w
    | .error f => .update fun s => { s with pacer := .ended f }
    .emit (.noticed (.tick true))
  | _ => .emit (.noticed (.tick false))

/-- Reacts to what happens. -/
def react (w : Watch) (handler : Handler σ) : Happening → Action (Serving σ) Unit
  | .startup => do
    .tell (Watching.record .info ("Watching " ++ Schema.plural ++ " in " ++
      (w.namespaceName.orElse (.str "all namespaces")).text))
    .emit (.noticed (.started 1 false))
  | .login arguments => .emit (.noticed (.loggedIn (arguments.mergeSort fun a b => decide (a ≤ b))))
  | .ready => .update fun s => { s with ready := true }
  | .notification type object => onWatching (Watching.deliver handler type object)
  | .tick => tick w handler
  | .wait reason =>
    .update fun s => { s with waited := s.waited || !s.lifetime.isOver,
                              lifetime := s.lifetime.cancel reason }
  | .failed f => .raise f
  | .cancel reason => cancel reason
  | .signal signal => do
    .tell ⟨.info, .startup, "Received " ++ signal.name ++ ", shutting down", none⟩
    cancel .graceful

/-- Opens the watch.  The pacing task begins its first pause, if there is to be one. -/
def openWatch (w : Watch) : Action (Serving σ) Unit := do
  let redelivers ← .ofExcept w.redelivers?
  .emit (.noticed (.serving true (!w.namespaceName.isPresent)
    (if w.namespaceName.isPresent then [w.namespaceName] else [])))
  if redelivers then pause w

/-- What following the notifications ends in, having come to a result by itself: the failure of the
pacing task comes before any other. -/
def close (result : Except Failure Unit) : Action (Serving σ) Unit := do
  match (← .state).pacer with
  | .ended f => .raise f
  | _ => .ofExcept result

/-- Reacts to all that happens, up to the first failure. -/
def follow (w : Watch) (handler : Handler σ) (script : List Happening) :
    Action (Serving σ) Unit := do
  close (← (Action.forEach (react w handler) script).attempt)

/-- Serves the watch. -/
def serve (w : Watch) (handler : Handler σ) (script : List Happening) :
    Action (Serving σ) Unit := do
  openWatch w
  follow w handler script

/-! ## What serving comes to -/

/-- A period that cannot be judged lets nothing happen. -/
theorem serve_apply_of_error {w : Watch} {f : Failure} (unjudged : w.redelivers? = .error f)
    (handler : Handler σ) (script : List Happening) (s : Serving σ) :
    serve w handler script s = ⟨.error f, [], s⟩ := by
  simp only [serve, openWatch, unjudged, Action.ofExcept, Action.bind_eq, Action.bind, Action.raise]

/-- Otherwise all that happens is reacted to, and only then the pacing task is asked how it is. -/
theorem serve_apply_of_ok {w : Watch} {redelivers : Bool} (judged : w.redelivers? = .ok redelivers)
    (handler : Handler σ) (script : List Happening) (s : Serving σ) :
    serve w handler script s =
      let row := Action.forEach (react w handler) script
        { s with pacer := if redelivers then .pausing else s.pacer }
      ⟨match row.state.pacer with
        | .ended f => .error f
        | _ => row.result,
        .noticed (.serving true (!w.namespaceName.isPresent)
          (if w.namespaceName.isPresent then [w.namespaceName] else [])) ::
          ((if redelivers then [.paused w.resyncPeriod] else []) ++ row.chronicle),
        row.state⟩ := by
  cases redelivers with
  | true =>
    simp only [serve, openWatch, follow, close, judged, Action.ofExcept, Action.bind_eq,
      Action.bind, Action.done, Action.emit, pause, Action.update, Action.attempt, Action.state,
      if_true]
    generalize Action.forEach (react w handler) script _ = row
    cases row.state.pacer with
    | ended f => simp [Action.raise]
    | absent | pausing => cases row.result <;> simp [Action.done, Action.raise]
  | false =>
    simp only [serve, openWatch, follow, close, judged, Action.ofExcept, Action.bind_eq,
      Action.bind, Action.done, Action.emit, Action.attempt, Action.state, Action.pure_eq,
      Bool.false_eq_true, if_false]
    generalize Action.forEach (react w handler) script _ = row
    cases row.state.pacer with
    | ended f => simp [Action.raise]
    | absent | pausing => cases row.result <;> simp [Action.done, Action.raise]

end Serving

end GroupOperator
