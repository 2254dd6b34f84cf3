import GroupOperator.Proofs.Reception
import GroupOperator.Proofs.Waiting
import GroupOperator.Watch.Session

/-!
# What a session comes to

At any moment of a session the task has something left to do, which is an action like any other
(`Session.left`), and with it comes what it would leave behind if it went on alone: its *prospect*.
No turn changes the prospect.  A turn of the task does a part of what is left, and the starter only
looks.

A session begins with the whole background task left to do, and the task is over when nothing is.
So the order of the turns makes no difference to what is served, and the task always ends as it
would have without anybody beside it (`Session.finished_of_enough`).
-/

namespace GroupOperator

namespace Serving

variable {σ : Type} {w : Watch} {handler : Handler σ} {s : Serving σ}

/-! ## Serving, happening by happening -/

theorem follow_cons_of_ok {h : Happening} {rest : List Happening}
    (went : (react w handler h s).result = .ok ()) :
    follow w handler (h :: rest) s =
      let others := follow w handler rest (react w handler h s).state
      ⟨others.result, (react w handler h s).chronicle ++ others.chronicle, others.state⟩ := by
  have row : Action.forEach (react w handler) (h :: rest) s = _ :=
    Action.forEach_cons_of_ok went
  simp only [follow, Action.bind_eq, Action.bind, Action.attempt, row, List.append_assoc]

theorem follow_cons_of_error {h : Happening} {rest : List Happening} {f : Failure}
    (failed : (react w handler h s).result = .error f) :
    follow w handler (h :: rest) s =
      let closed := close (.error f) (react w handler h s).state
      ⟨closed.result, (react w handler h s).chronicle ++ closed.chronicle, closed.state⟩ := by
  have row : Action.forEach (react w handler) (h :: rest) s = _ :=
    Action.forEach_cons_of_error failed
  simp only [follow, Action.bind_eq, Action.bind, Action.attempt, row]

end Serving

namespace Session

open Supervision

variable {σ : Type} (w : Watch) (handler : Handler σ)

/-! ## What is left to do -/

/-- What serving has left to do. -/
def servingLeft : Progress → Action (Serving σ) Unit
  | .opening script => Serving.serve w handler script
  | .following rest => Serving.follow w handler rest
  | .closing result => Serving.close result

/-- What the task has left to do. -/
def left (s : Session σ) : Action (Serving σ) (Option Failure) :=
  match s.task with
  | .serving => do
    Subscription.wrapUp (Subscription.failure? (← (servingLeft w handler s.progress).attempt))
  | .ended ending => Subscription.wrapUp ending
  | .established => do
    if !(← .state).lifetime.isOver then
      .tell (Watching.record .error Subscription.unexpectedEnd)
      Serving.cancel (.failure (.interrupted Subscription.unexpectedEnd))
    return none
  | .cancelling ending reason => do
    Serving.cancel reason
    return ending
  | .finished ending => return ending

/-- What the task will have left behind if it goes on alone. -/
def prospect (s : Session σ) : Outcome (Serving σ) (Option Failure) :=
  let o := s.left w handler s.serving
  ⟨o.result, s.chronicle ++ o.chronicle, o.state⟩

/-- A session that begins has the whole background task left to do. -/
theorem prospect_start (serving : Serving σ) (script : List Happening) :
    (start serving script).prospect w handler =
      Subscription.background w handler script serving := rfl

/-- A task that is over has left behind what there is. -/
theorem prospect_of_finished {s : Session σ} {ending : Option Failure}
    (finished : s.task = .finished ending) :
    s.prospect w handler = ⟨.ok ending, s.chronicle, s.serving⟩ := by
  simp only [prospect, left, finished]
  simp

variable {w handler} {s : Session σ}

/-- While the task serves, its prospect is what serving comes to, and the consequences. -/
theorem prospect_of_serving (serving : s.task = .serving) :
    s.prospect w handler =
      let served := servingLeft w handler s.progress s.serving
      let o := Subscription.wrapUp (Subscription.failure? served.result) served.state
      ⟨o.result, s.chronicle ++ served.chronicle ++ o.chronicle, o.state⟩ := by
  simp only [prospect, left, serving, Action.bind_eq, Action.bind, Action.attempt,
    List.append_assoc]

theorem prospect_of_ended {ending : Option Failure} (ended : s.task = .ended ending) :
    s.prospect w handler =
      let o := Subscription.wrapUp ending s.serving
      ⟨o.result, s.chronicle ++ o.chronicle, o.state⟩ := by
  simp only [prospect, left, ended]

/-! ## Turns keep the prospect -/

theorem prospect_serve (serving : s.task = .serving) :
    (s.serve w handler).prospect w handler = s.prospect w handler := by
  rw [prospect_of_serving serving, serve]
  cases stage : s.progress with
  | opening script =>
    cases opened : (Serving.openWatch w s.serving).result with
    | ok u =>
      simp only [opened]
      rw [prospect_of_serving (by exact serving)]
      simp only [servingLeft, record, Serving.serve, Action.bind_eq,
        Action.bind_apply_of_ok opened, List.append_assoc]
    | error f =>
      simp only [opened]
      rw [prospect_of_ended rfl]
      simp only [servingLeft, record, Serving.serve, Action.bind_eq,
        Action.bind_apply_of_error opened, Subscription.failure?]
  | following rest =>
    cases rest with
    | nil =>
      dsimp only
      rw [prospect_of_serving (by exact serving)]
      rfl
    | cons h rest =>
      cases reacted : (Serving.react w handler h s.serving).result with
      | ok u =>
        simp only [reacted]
        rw [prospect_of_serving (by exact serving)]
        simp only [servingLeft, record, Serving.follow_cons_of_ok reacted, List.append_assoc]
      | error f =>
        simp only [reacted]
        rw [prospect_of_serving (by exact serving)]
        simp only [servingLeft, record, Serving.follow_cons_of_error reacted, List.append_assoc]
  | closing result =>
    dsimp only
    rw [prospect_of_ended rfl]
    simp only [servingLeft, record, List.append_assoc]

theorem prospect_move_task (served : s.task ≠ .serving) :
    ({ s.move .task with chronicle := s.chronicle ++ s.remark } : Session σ).prospect w handler =
      s.prospect w handler := by
  obtain ⟨⟨watching, lifetime, ready, pacer, waited⟩, progress, chronicle, task, starter⟩ := s
  simp only [prospect, left, move, supervision, Supervision.step, stepTask, remark]
  cases task with
  | serving => exact absurd rfl served
  | ended ending =>
    cases ending with
    | some f =>
      cases ready <;> simp [Subscription.wrapUp, Action.bind, Action.tell, Serving.cancel]
    | none => cases ready <;> simp [Subscription.wrapUp, Action.bind]
  | established =>
    by_cases past : lifetime.isOver = true <;> simp [past, Action.bind, Action.tell]
  | cancelling ending reason => simp [Action.bind, Serving.cancel]
  | finished ending => simp

/-- The starter's own steps change nothing but how far it has come. -/
theorem exists_move_starter (s : Session σ) :
    ∃ stage, s.move .starter = { s with starter := stage } := by
  obtain ⟨stage, goes, -⟩ := exists_stepStarter s.supervision
  refine ⟨stage, ?_⟩
  rw [move, Supervision.step, goes]
  rfl

theorem exists_move_giveUp (s : Session σ) :
    ∃ stage, s.move .giveUp = { s with starter := stage } := by
  rw [move, Supervision.step]
  split
  · exact ⟨.returned, rfl⟩
  · exact ⟨s.starter, rfl⟩

variable (w handler)

/-- No turn changes what the task will have left behind. -/
theorem prospect_step (s : Session σ) (turn : Turn) :
    (s.step w handler turn).prospect w handler = s.prospect w handler := by
  cases turn with
  | task =>
    rw [step]
    split
    · rename_i serving
      exact prospect_serve serving
    · rename_i served
      exact prospect_move_task served
  | starter =>
    obtain ⟨stage, moved⟩ := s.exists_move_starter
    rw [step, moved]
    rfl
  | giveUp =>
    obtain ⟨stage, moved⟩ := s.exists_move_giveUp
    rw [step, moved]
    rfl

theorem prospect_run (s : Session σ) (turns : List Turn) :
    (s.run w handler turns).prospect w handler = s.prospect w handler := by
  induction turns generalizing s with
  | nil => rfl
  | cons turn rest ih => exact (ih _).trans (prospect_step w handler s turn)

/-! ## The task comes to its end -/

/-- How many turns the task has left at most. -/
def turnsLeft (s : Session σ) : Nat :=
  match s.task with
  | .serving =>
    match s.progress with
    | .opening script => script.length + 6
    | .following rest => rest.length + 5
    | .closing _ => 4
  | .ended _ => 3
  | .established => 2
  | .cancelling _ _ => 1
  | .finished _ => 0

theorem exists_finished {s : Session σ} (none : s.turnsLeft = 0) :
    ∃ ending, s.task = .finished ending := by
  rw [turnsLeft] at none
  cases stage : s.task with
  | serving => cases progress : s.progress <;> simp [stage, progress] at none
  | finished ending => exact ⟨ending, rfl⟩
  | ended _ | established | cancelling _ _ => simp [stage] at none

/-- A turn of the task leaves it one turn less, and nobody else's gives it more. -/
theorem turnsLeft_step (s : Session σ) (turn : Turn) :
    (s.step w handler turn).turnsLeft ≤ s.turnsLeft - if turn = .task then 1 else 0 := by
  cases turn with
  | starter =>
    obtain ⟨stage, moved⟩ := s.exists_move_starter
    rw [step, moved]
    exact Nat.le_refl _
  | giveUp =>
    obtain ⟨stage, moved⟩ := s.exists_move_giveUp
    rw [step, moved]
    exact Nat.le_refl _
  | task =>
    rw [if_pos rfl, step]
    cases stage : s.task with
    | serving =>
      dsimp only
      rw [serve]
      cases progress : s.progress with
      | opening script =>
        cases opened : (Serving.openWatch w s.serving).result <;>
          simp [opened, turnsLeft, record, stage, progress]
      | following rest =>
        cases rest with
        | nil => simp [turnsLeft, stage, progress]
        | cons h rest =>
          cases reacted : (Serving.react w handler h s.serving).result <;>
            simp [reacted, turnsLeft, record, stage, progress]
      | closing result => simp [turnsLeft, stage, progress]
    | ended ending =>
      cases ending <;> cases ready : s.serving.ready <;>
        simp [turnsLeft, move, supervision, Supervision.step, stepTask, stage, ready]
    | established =>
      cases past : s.serving.lifetime.isOver <;>
        simp [turnsLeft, move, supervision, Supervision.step, stepTask, stage, past]
    | cancelling ending reason =>
      simp [turnsLeft, move, supervision, Supervision.step, stepTask, stage]
    | finished ending => simp [turnsLeft, move, supervision, Supervision.step, stepTask, stage]

theorem turnsLeft_run (s : Session σ) (turns : List Turn) :
    (s.run w handler turns).turnsLeft ≤ s.turnsLeft - turns.count .task := by
  induction turns generalizing s with
  | nil => exact Nat.le_refl _
  | cons turn rest ih =>
    have next := turnsLeft_step w handler s turn
    have others := ih (s.step w handler turn)
    rw [List.count_cons]
    simp only [beq_iff_eq]
    rw [run, List.foldl_cons, ← run]
    omega

/-- **A session comes to what its task comes to alone.**  Whatever turns the sides take, once the
task has had enough of them it is over, and it has left behind what the background task does. -/
theorem finished_of_enough (serving : Serving σ) {script : List Happening} {turns : List Turn}
    (enough : script.length + 6 ≤ turns.count .task) :
    ∃ ending, ((start serving script).run w handler turns).task = .finished ending ∧
      Subscription.background w handler script serving =
        ⟨.ok ending, ((start serving script).run w handler turns).chronicle,
          ((start serving script).run w handler turns).serving⟩ := by
  have few := turnsLeft_run w handler (start serving script) turns
  have all : (start serving script).turnsLeft = script.length + 6 := rfl
  rw [all, Nat.sub_eq_zero_of_le enough] at few
  obtain ⟨ending, finished⟩ := exists_finished (Nat.le_zero.mp few)
  refine ⟨ending, finished, ?_⟩
  rw [← prospect_start, ← prospect_run w handler _ turns, prospect_of_finished w handler finished]

end Session

end GroupOperator
