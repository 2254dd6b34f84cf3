import GroupOperator.Reconciler
import GroupOperator.Settings
import GroupOperator.Watch.Session

/-!
# The operator

The reconciler at work: a subscription to the groups of a namespace, every event of which is
handled, until the lifetime is over.  What the operator returns is why the lifetime ended; it fails
only if the subscription cannot be started.

The subscription may be started in two ways: with a start that looks at its flags when the task is
over (`run`), and with one that looks at them beside it, the sides taking turns (`runInTurns`).
-/

namespace GroupOperator.Operator

/-! ## What an operator cannot work with -/

/-- What is wrong with an operator's collaborators. -/
inductive Misconfiguration where
  /-- There is no gateway to the cluster. -/
  | noGateway
  /-- The period of redelivery counts as no number. -/
  | noPeriod (period : Value)
  /-- The period of redelivery is below zero. -/
  | negativePeriod (period : Value)
  /-- There is no namespace to create workloads in. -/
  | noWorkloadNamespace
  deriving DecidableEq, Repr

/-- A misconfiguration as a failure. -/
def Misconfiguration.failure : Misconfiguration → Failure
  | .noGateway => .configuration "invalid controller config: no cluster gateway"
  | .noPeriod period => .incomparable "<" period
  | .negativePeriod period =>
    .configuration ("invalid controller config: negative resync period " ++ period.text)
  | .noWorkloadNamespace => .configuration "invalid controller config: no workload namespace"

/-- The first thing that is wrong with a gateway, present or not, and settings. -/
def misconfiguration? (gateway : Bool) (s : Settings) : Option Misconfiguration :=
  if !gateway then some .noGateway
  else
    match s.resyncPeriod.number? with
    | none => some (.noPeriod s.resyncPeriod)
    | some period =>
      if period.isNegative then some (.negativePeriod s.resyncPeriod)
      else if !s.workloadNamespace.isPresent then some .noWorkloadNamespace
      else none

/-! ## Running -/

variable {σ : Type}

/-- The watch that settings ask for. -/
def watchOf (s : Settings) : Watch :=
  ⟨s.namespaceName, s.resyncPeriod⟩

/-- What is done with the events of the watch, requests being answered by `answer`. -/
def handler (s : Settings) (answer : Answering σ) : Handler σ :=
  .ofActivity answer (Reconciler.handle s.workloadNamespace)

/-- Starts a subscription and lets it work until the lifetime is over; the result is why it
ended. -/
def runBy (start : Action (Subscription σ) Unit) : Action (Subscription σ) Reason := do
  .tell (Reconciler.record .info "Watching ServiceGroup objects")
  match ← start.attempt with
  | .error (.call operation name namespaceName cause status) => do
    let f := Failure.call operation name namespaceName cause status
    .tell (Reconciler.record .error
      ("Failed to register watch for ServiceGroup resource: " ++ f.message))
    .raise f
  | .error f => .raise f
  | .ok () => do
    let reason := (← .state).serving.lifetime.reason
    .tell (Reconciler.record .info
      ("Stopped watching ServiceGroup objects (reason: " ++ reason.text ++ ")"))
    return reason

/-- Watches and handles, with a start that looks when all is over. -/
def run (s : Settings) (answer : Answering σ) (script : List Happening) :
    Action (Subscription σ) Reason :=
  runBy (Subscription.start (watchOf s) (handler s answer) script)

/-- Watches and handles, with a start that looks when it is its turn. -/
def runInTurns (s : Settings) (answer : Answering σ) (script : List Happening) (turns : List Turn) :
    Action (Subscription σ) Reason :=
  runBy (Subscription.startInTurns (watchOf s) (handler s answer) script turns)

/-! ## Accepted settings -/

/-- An operator with a gateway accepts settings exactly if the period counts as a number that is not
below zero and there is a namespace to work in. -/
theorem misconfiguration?_eq_none_iff {s : Settings} :
    misconfiguration? true s = none ↔
      (∃ period, s.resyncPeriod.number? = some period ∧ period.isNegative = false) ∧
        s.workloadNamespace.isPresent = true := by
  cases hp : s.resyncPeriod.number? with
  | none => simp [misconfiguration?, hp]
  | some period =>
    cases hn : period.isNegative <;> cases hw : s.workloadNamespace.isPresent <;>
      simp [misconfiguration?, hp, hn, hw]

end GroupOperator.Operator
