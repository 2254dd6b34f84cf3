import GroupOperator.Proofs.Blame
import GroupOperator.Proofs.Ending
import GroupOperator.Proofs.Prospect

/-!
# Starts that are overtaken

A start judges the watch by what it has looked at while the task ran beside it.
`Subscription.start` judges by what the task leaves behind.  The two come to the same unless the
starter was overtaken, and then a start fails that nothing was wrong with
(`Subscription.startInTurns_of_overtaken`).

The turns of a session are a row of steps of supervision (`Session.supervision_run`), so all that is
known about such rows applies.  What a session adds is that the task goes through its script only
once: when it is over, the flags stay as it leaves them, and a starter that looks late enough sees
what `Subscription.start` judges by.
-/

namespace GroupOperator

/-! ## Where the starter ends -/

namespace Supervision

variable {s : Supervision} {steps : List SupervisionStep} {ending : Option Failure}

theorem ready_step_of_ne {m : SupervisionStep} (other : m ≠ .establish) :
    (s.step m).ready = s.ready := by
  cases m with
  | establish => exact absurd rfl other
  | endServing e =>
    rw [step]
    split <;> rfl
  | task =>
    rw [step, stepTask]
    split <;> rfl
  | starter =>
    obtain ⟨stage, goes, -⟩ := exists_stepStarter s
    rw [step, goes]
  | giveUp =>
    rw [step]
    split <;> rfl
  | cancel reason => rfl

/-- A starter in the gap stays there until its next step. -/
theorem lookTask_run (looks : s.starter = .lookTask) (still : .starter ∉ steps) :
    (s.run steps).starter = .lookTask := by
  induction steps using List.reverseRecOn with
  | nil => exact looks
  | append_singleton steps m ih =>
    rw [List.mem_append, List.mem_singleton, not_or] at still
    have before := ih still.1
    rw [run_concat]
    rcases starter_step_of_ne (s.run steps) (Ne.symm still.2) with same | ⟨joined, -⟩
    · exact same.trans before
    · cases joined.symm.trans before

/-- A starter that blames the watch goes on doing so. -/
theorem blamed_run (blamed : s.starter = .blamed ending) (steps : List SupervisionStep) :
    (s.run steps).starter = .blamed ending := by
  induction steps using List.reverseRecOn with
  | nil => exact blamed
  | append_singleton steps m ih =>
    rw [run_concat]
    by_cases own : m = .starter
    · rw [own, step, stepStarter]
      simp only [ih]
    · rcases starter_step_of_ne (s.run steps) own with same | ⟨joined, -⟩
      · exact same.trans ih
      · cases joined.symm.trans ih

/-- A starter that was overtaken blames the watch. -/
theorem blamed_of_overtaken (overtaken : Overtaken steps) :
    ∃ ending, (run {} steps).starter = .blamed ending := by
  obtain ⟨early, before, after, late, ending, rfl, gap, ends, -⟩ := overtaken
  have looks : (run {} (early ++ [.starter])).starter = .lookTask := by
    rw [run_concat, step, stepStarter]
    simp only [gap.looks, gap.goesOn, Bool.false_eq_true, if_false]
  have still := lookTask_run looks gap.still
  have finished := finished_run ends.finished after
  rw [← run_append, List.append_assoc, List.singleton_append] at still
  rw [← run_append, List.append_assoc, List.singleton_append, List.append_assoc,
    List.cons_append] at finished
  refine ⟨ending, ?_⟩
  have split : early ++ .starter :: (before ++ .task :: after ++ .starter :: late) =
      (early ++ .starter :: (before ++ .task :: after) ++ [.starter]) ++ late := by simp
  rw [split, run_append]
  apply blamed_run
  rw [run_concat, step, stepStarter]
  simp only [still, finished]

/-- Where it was, the lifetime is over. -/
theorem isOver_of_overtaken (overtaken : Overtaken steps) :
    (run {} steps).lifetime.isOver = true := by
  obtain ⟨early, before, after, late, ending, rfl, -, -, past⟩ := overtaken
  have split : early ++ .starter :: (before ++ .task :: after ++ .starter :: late) =
      (early ++ .starter :: before ++ [.task]) ++ (after ++ .starter :: late) := by simp
  rw [split, run_append]
  exact isOver_run past _

/-- Whom the starter blames is over. -/
theorem finished_of_blamed (blamed : (run {} steps).starter = .blamed ending) :
    (run {} steps).task = .finished ending := by
  obtain ⟨early, between, late, rfl, -, finished⟩ := exists_gap_of_blamed blamed
  have split : early ++ .starter :: (between ++ .starter :: late) =
      (early ++ .starter :: between) ++ .starter :: late := by simp
  rw [split, run_append]
  exact finished_run finished _

/-- Nobody waits for the task before the lifetime is over. -/
theorem isOver_of_joined
    (joined : (run {} steps).starter = .joining ∨ (run {} steps).starter = .returned) :
    (run {} steps).lifetime.isOver = true := by
  induction steps using List.reverseRecOn with
  | nil => rcases joined with joined | joined <;> cases joined
  | append_singleton steps m ih =>
    rw [run_concat] at joined ⊢
    by_cases own : m = .starter
    · obtain rfl := own
      have move := starterMove_stepStarter (run {} steps)
      apply isOver_step
      rcases joined with joins | returns
      · rw [show (run {} steps).stepStarter.starter = .joining from joins] at move
        cases move with
        | joins waited past => exact past
        | stays same rests => exact ih (.inl same)
      · rw [show (run {} steps).stepStarter.starter = .returned from returns] at move
        cases move with
        | returns joined finished => exact ih (.inl joined)
        | stays same rests => exact ih (.inr same)
    · apply isOver_step
      rcases starter_step_of_ne (run {} steps) own with same | ⟨waited, -⟩
      · rw [same] at joined
        exact ih joined
      · exact ih (.inl waited)

end Supervision

/-! ## The flags of serving -/

namespace Serving

variable {σ : Type} (w : Watch) (handler : Handler σ) (s : Serving σ)

/-- A redelivery says nothing about the flags, and its failure is not the failure of serving. -/
theorem tick_apply :
    (tick w handler s).result = .ok () ∧ (tick w handler s).state.lifetime = s.lifetime ∧
      (tick w handler s).state.ready = s.ready := by
  rw [tick, Action.bind_eq, Action.bind_apply_of_ok rfl, Action.state_apply]
  cases s.pacer with
  | absent => exact ⟨rfl, rfl, rfl⟩
  | ended f => exact ⟨rfl, rfl, rfl⟩
  | pausing =>
    simp only [Action.bind_eq, Action.result_attempt_bind, Action.state_attempt_bind]
    cases (onWatching (Watching.redeliver handler) s).result with
    | error f => exact ⟨rfl, rfl, rfl⟩
    | ok u => exact ⟨rfl, rfl, rfl⟩

theorem openWatch_flags :
    (openWatch w s).state.lifetime = s.lifetime ∧ (openWatch w s).state.ready = s.ready := by
  cases judged : w.redelivers? with
  | error f => simp [openWatch, judged, Action.ofExcept, Action.bind]
  | ok redelivers =>
    cases redelivers <;> simp [openWatch, judged, Action.ofExcept, Action.bind, pause]

theorem state_close (result : Except Failure Unit) : (close result s).state = s := by
  rw [close, Action.bind_eq, Action.bind_apply_of_ok rfl, Action.state_apply]
  cases s.pacer with
  | ended f => rfl
  | absent | pausing => cases result <;> rfl

end Serving

/-! ## Turns as steps of supervision -/

namespace Session

open Supervision

variable {σ : Type} (w : Watch) (handler : Handler σ) {s : Session σ}

theorem supervision_move {m : SupervisionStep} (other : m ≠ .establish) (s : Session σ) :
    (s.move m).supervision = s.supervision.step m := by
  have ready := ready_step_of_ne (s := s.supervision) other
  rw [move, supervision]
  simp only
  rw [show s.serving.ready = (s.supervision.step m).ready from ready.symm]

/-- What leaves the flags alone is not seen by the starter. -/
theorem supervision_record {o : Outcome (Serving σ) Unit}
    (lifetime : o.state.lifetime = s.serving.lifetime) (ready : o.state.ready = s.serving.ready) :
    (s.record o).supervision = s.supervision := by
  rw [supervision, supervision, record, lifetime, ready]

/-- What a happening does to the flags. -/
theorem supervision_react (serving : s.task = .serving) (h : Happening) :
    (s.record (Serving.react w handler h s.serving)).supervision = s.supervision.run h.steps := by
  cases h with
  | ready =>
    have serves : s.supervision.task = .serving := serving
    rw [Happening.steps, Supervision.run, List.foldl_cons, List.foldl_nil, Supervision.step,
      if_pos serves]
    rfl
  | tick =>
    obtain ⟨-, lifetime, ready⟩ := Serving.tick_apply w handler s.serving
    exact supervision_record lifetime ready
  | startup | login _ | notification _ _ | wait _ | failed _ | cancel _ | signal _ => rfl

/-- The end of serving, as a step. -/
theorem step_endServing (serving : s.task = .serving) (ending : Option Failure) :
    s.supervision.run [.endServing ending] =
      ({ s with task := .ended ending } : Session σ).supervision := by
  have serves : s.supervision.task = .serving := serving
  rw [Supervision.run, List.foldl_cons, List.foldl_nil, Supervision.step, if_pos serves]
  rfl

theorem supervision_serve (serving : s.task = .serving) :
    (s.serve w handler).supervision = s.supervision.run (s.steps w .task) := by
  simp only [serve, steps, serving]
  cases s.progress with
  | opening script =>
    obtain ⟨lifetime, ready⟩ := Serving.openWatch_flags w s.serving
    have seen := supervision_record lifetime ready
    cases opened : (Serving.openWatch w s.serving).result with
    | ok u => exact seen
    | error f =>
      rw [← seen]
      exact (step_endServing (s := s.record _) serving (some f)).symm
  | following rest =>
    cases rest with
    | nil => simp only [supervision, serving, Supervision.run, List.foldl_nil]
    | cons h rest =>
      have seen := supervision_react w handler serving h
      dsimp only
      cases reacted : (Serving.react w handler h s.serving).result with
      | ok u => exact seen
      | error f => exact seen
  | closing result =>
    have kept := Serving.state_close s.serving result
    have seen := supervision_record (s := s) (congrArg Serving.lifetime kept)
      (congrArg Serving.ready kept)
    rw [← seen]
    exact (step_endServing (s := s.record _) serving _).symm

/-- A turn is the steps that it comes to. -/
theorem supervision_step (s : Session σ) (turn : Turn) :
    (s.step w handler turn).supervision = s.supervision.run (s.steps w turn) := by
  cases turn with
  | task =>
    cases stage : s.task with
    | serving =>
      rw [step, stage]
      exact supervision_serve w handler stage
    | ended _ | established | cancelling _ _ | finished _ =>
      simp only [step, steps, stage]
      exact supervision_move (by decide) s
  | starter => exact supervision_move (by decide) s
  | giveUp => exact supervision_move (by decide) s

/-- **Turns are a row of steps.** -/
theorem supervision_run (s : Session σ) (turns : List Turn) :
    (s.run w handler turns).supervision = s.supervision.run (s.row w handler turns) := by
  induction turns generalizing s with
  | nil => rfl
  | cons turn rest ih =>
    rw [row, run_append, ← supervision_step w handler]
    exact ih _

theorem row_append (s : Session σ) (first second : List Turn) :
    s.row w handler (first ++ second) =
      s.row w handler first ++ (s.run w handler first).row w handler second := by
  induction first generalizing s with
  | nil => rfl
  | cons turn rest ih =>
    rw [List.cons_append, row, row, ih, List.append_assoc]
    rfl

theorem row_replicate_starter (s : Session σ) (n : Nat) :
    s.row w handler (.replicate n .starter) = .replicate n .starter := by
  induction n generalizing s with
  | zero => rfl
  | succ n ih =>
    rw [List.replicate_succ, row, ih]
    rfl

/-! ## When the task is over -/

/-- A task that is over leaves everything as it is. -/
theorem finished_run {ending : Option Failure} (finished : s.task = .finished ending)
    (turns : List Turn) :
    (s.run w handler turns).task = .finished ending ∧
      (s.run w handler turns).serving = s.serving := by
  have still : (s.run w handler turns).task = .finished ending := by
    change (s.run w handler turns).supervision.task = _
    rw [supervision_run]
    exact Supervision.finished_run finished _
  have same := prospect_run w handler s turns
  rw [prospect_of_finished w handler still, prospect_of_finished w handler finished] at same
  exact ⟨still, congrArg Outcome.state same⟩

variable {w handler}

/-- The task is not over when serving is, for it has the consequences to draw. -/
theorem not_finished_serve (serving : s.task = .serving) {ending : Option Failure} :
    (s.serve w handler).task ≠ .finished ending := by
  rw [serve]
  cases s.progress with
  | opening script =>
    cases opened : (Serving.openWatch w s.serving).result <;> simp [opened, record, serving]
  | following rest =>
    cases rest with
    | nil => simp [serving]
    | cons h rest =>
      cases reacted : (Serving.react w handler h s.serving).result <;>
        simp [reacted, record, serving]
  | closing result => simp

/-- Only a turn of the task, and one after serving, brings it to its end. -/
theorem steps_of_end {turn : Turn} (busy : s.task.isFinished = false)
    (through : (s.step w handler turn).task.isFinished = true) :
    turn = .task ∧ s.steps w turn = [.task] := by
  cases turn with
  | task =>
    refine ⟨rfl, ?_⟩
    cases stage : s.task with
    | serving =>
      rw [step, stage] at through
      obtain ⟨ending, finished⟩ := TaskStage.isFinished_iff.mp through
      exact absurd finished (not_finished_serve stage)
    | ended _ | established | cancelling _ _ => simp only [steps, stage]
    | finished ending =>
      rw [stage] at busy
      cases busy
  | starter =>
    obtain ⟨stage, moved⟩ := s.exists_move_starter
    rw [step, moved] at through
    rw [show s.task.isFinished = true from through] at busy
    cases busy
  | giveUp =>
    obtain ⟨stage, moved⟩ := s.exists_move_giveUp
    rw [step, moved] at through
    rw [show s.task.isFinished = true from through] at busy
    cases busy

/-- The row of steps is cut where the task comes to its end. -/
theorem exists_end_of_run {turns : List Turn} {ending : Option Failure}
    (busy : s.task.isFinished = false)
    (finished : (s.run w handler turns).task = .finished ending) :
    ∃ before after, s.row w handler turns = s.row w handler before ++ .task :: after ∧
      (s.run w handler before).task.isFinished = false ∧
      ∃ last : Session σ, last.supervision = s.supervision.run (s.row w handler before ++ [.task]) ∧
        last.task = .finished ending ∧ last.serving = (s.run w handler turns).serving := by
  induction turns generalizing s with
  | nil =>
    rw [show s.task = .finished ending from finished] at busy
    cases busy
  | cons turn rest ih =>
    cases now : (s.step w handler turn).task.isFinished with
    | true =>
      obtain ⟨rfl, last⟩ := steps_of_end busy now
      obtain ⟨other, ended⟩ := TaskStage.isFinished_iff.mp now
      obtain ⟨still, kept⟩ := finished_run w handler ended rest
      obtain rfl : other = ending := TaskStage.finished.inj (still.symm.trans finished)
      refine ⟨[], (s.step w handler .task).row w handler rest, ?_, busy, s.step w handler .task, ?_,
        ended, kept.symm⟩
      · simp only [row, last, List.nil_append, List.singleton_append]
      · rw [supervision_step, last]
        rfl
    | false =>
      obtain ⟨before, after, split, unfinished, last, seen, ended, kept⟩ := ih now finished
      refine ⟨turn :: before, after, ?_, unfinished, last, ?_, ended, kept⟩
      · rw [row, split, row, List.append_assoc]
      · rw [seen, row, List.append_assoc, Supervision.run_append _ (s.steps w turn),
          ← supervision_step w handler]

/-! ## What the starter comes to -/

section

variable {serving : Serving σ} {script : List Happening} {turns : List Turn}

/-- In the end the task is over, and what it leaves behind is what the background task does. -/
theorem finished_complete (w : Watch) (handler : Handler σ) (serving : Serving σ)
    (script : List Happening) (turns : List Turn) :
    ∃ ending, (complete w handler script turns serving).task = .finished ending ∧
      Subscription.background w handler script serving =
        ⟨.ok ending, (complete w handler script turns serving).chronicle,
          (complete w handler script turns serving).serving⟩ := by
  apply finished_of_enough
  rw [whole, List.count_append, List.count_append, List.count_replicate_self]
  omega

/-- Nothing has happened yet. -/
theorem supervision_start (lifetime : serving.lifetime = {}) (ready : serving.ready = false) :
    (start serving script).supervision = {} := by
  rw [supervision, start, lifetime, ready]

theorem supervision_complete (w : Watch) (handler : Handler σ) (turns : List Turn)
    (begins : (start serving script).supervision = {}) :
    (complete w handler script turns serving).supervision =
      .run {} (course w handler script turns serving) := by
  rw [complete, course, supervision_run, begins]

/-- In the end the starter is through, well or not. -/
theorem isThrough_complete (w : Watch) (handler : Handler σ) (turns : List Turn)
    (begins : (start serving script).supervision = {}) :
    (complete w handler script turns serving).starter.isThrough = true := by
  have enough : script.length + 6 ≤
      (turns ++ .replicate (script.length + 6) .task : List Turn).count .task := by
    rw [List.count_append, List.count_replicate_self]
    omega
  obtain ⟨ending, finished, -⟩ := finished_of_enough w handler serving enough
  change (complete w handler script turns serving).supervision.starter.isThrough = true
  rw [supervision_complete w handler turns begins, course, whole, row_append,
    row_replicate_starter]
  -- beside a task that is over four steps of its own are enough for the starter
  apply StarterStage.isThrough_of_rank
  have past : (Supervision.run {} ((start serving script).row w handler
      (turns ++ .replicate (script.length + 6) .task))).task.isFinished = true := by
    rw [← begins, ← supervision_run]
    exact TaskStage.isFinished_iff.mpr ⟨ending, finished⟩
  obtain ⟨-, near⟩ := rank_run_starter _ past 4
  have far := StarterStage.rank_le (Supervision.run {} ((start serving script).row w handler
    (turns ++ .replicate (script.length + 6) .task))).starter
  omega

/-- The task came to its end in some turn, and then the flags were as they are in the end. -/
theorem exists_end_complete {ending : Option Failure}
    (begins : (start serving script).supervision = {})
    (finished : (complete w handler script turns serving).task = .finished ending) :
    ∃ before after, course w handler script turns serving = before ++ .task :: after ∧
      EndsAfter before ending ∧
      (Supervision.run {} (before ++ [.task])).ready =
        (complete w handler script turns serving).serving.ready ∧
      (Supervision.run {} (before ++ [.task])).lifetime =
        (complete w handler script turns serving).serving.lifetime := by
  obtain ⟨before, after, split, unfinished, last, seen, ended, kept⟩ :=
    exists_end_of_run rfl finished
  rw [begins] at seen
  refine ⟨_, after, split, ⟨?_, ?_⟩, ?_, ?_⟩
  · rw [← begins, ← supervision_run]
    exact unfinished
  · rw [← seen]
    exact ended
  · rw [← seen, complete, ← kept]
    rfl
  · rw [← seen, complete, ← kept]
    rfl

/-- If the starter blames the watch, it is for what the task did come to. -/
theorem ending_of_blamed {ending other : Option Failure}
    (begins : (start serving script).supervision = {})
    (finished : (complete w handler script turns serving).task = .finished ending)
    (blamed : (Supervision.run {} (course w handler script turns serving)).starter =
      .blamed other) :
    other = ending := by
  have ended := finished_of_blamed blamed
  rw [← supervision_complete w handler turns begins] at ended
  exact TaskStage.finished.inj (ended.symm.trans finished)

/-- A starter that is not overtaken comes to what the flags say in the end. -/
theorem verdict_of_not_overtaken {ending : Option Failure}
    (begins : (start serving script).supervision = {})
    (inTime : ¬ Overtaken (course w handler script turns serving))
    (finished : (complete w handler script turns serving).task = .finished ending) :
    (complete w handler script turns serving).verdict w =
      if (complete w handler script turns serving).serving.ready ||
          (complete w handler script turns serving).serving.lifetime.isOver then .ok ()
      else .error (Subscription.registrationFailure w ending) := by
  have through := isThrough_complete w handler turns begins
  have stage := congrArg Supervision.starter
    (supervision_complete w handler turns begins)
  rw [verdict]
  cases starter : (complete w handler script turns serving).starter with
  | returned =>
    have past := isOver_of_joined (.inr (stage.symm.trans starter))
    rw [← supervision_complete w handler turns begins] at past
    rw [show (complete w handler script turns serving).serving.lifetime.isOver = true from past,
      Bool.or_true, if_pos rfl]
  | blamed other =>
    have blamed := stage.symm.trans starter
    obtain rfl := ending_of_blamed begins finished blamed
    obtain ⟨before, after, split, ends, ready, lifetime⟩ := exists_end_complete begins finished
    obtain ⟨unready, goesOn⟩ := flags_down_of_not_overtaken blamed inTime split ends
    rw [← ready, unready, ← lifetime, goesOn, Bool.or_false, if_neg Bool.false_ne_true]
  | lookReady | lookOver | lookTask | waiting | joining =>
    rw [starter] at through
    cases through

/-- A starter that is overtaken blames the watch, though the lifetime is over. -/
theorem verdict_of_overtaken {ending : Option Failure}
    (begins : (start serving script).supervision = {})
    (overtaken : Overtaken (course w handler script turns serving))
    (finished : (complete w handler script turns serving).task = .finished ending) :
    (complete w handler script turns serving).verdict w =
        .error (Subscription.registrationFailure w ending) ∧
      (complete w handler script turns serving).serving.lifetime.isOver = true := by
  obtain ⟨other, blamed⟩ := blamed_of_overtaken overtaken
  obtain rfl := ending_of_blamed begins finished blamed
  have past := isOver_of_overtaken overtaken
  rw [← supervision_complete w handler turns begins] at blamed past
  refine ⟨?_, past⟩
  rw [verdict, show (complete w handler script turns serving).starter = .blamed other from blamed]

end

end Session

/-! ## Starters that come late -/

namespace Supervision

variable {steps : List SupervisionStep}

/-- A starter that has no turn before the task is over is not overtaken. -/
theorem not_overtaken_of_late (still : .starter ∉ steps) (n : Nat) :
    ¬ Overtaken (steps ++ .replicate n .starter) := by
  -- in a row of the starter alone there is no step of the task
  have alone (first before after : List SupervisionStep) :
      List.replicate n .starter ≠ first ++ .starter :: (before ++ .task :: after) := by
    intro row
    have mem : SupervisionStep.task ∈ List.replicate n SupervisionStep.starter := by simp [row]
    cases List.eq_of_mem_replicate mem
  rintro ⟨early, before, after, late, ending, split, -, -, -⟩
  rcases List.append_eq_append_iff.mp split with ⟨rest, rfl, others⟩ | ⟨rest, rfl, others⟩
  · rw [List.append_assoc, List.cons_append] at others
    exact alone _ _ _ others
  · cases rest with
    | nil =>
      rw [List.nil_append, List.append_assoc, List.cons_append] at others
      exact alone [] _ _ others.symm
    | cons m rest =>
      obtain ⟨rfl, -⟩ := List.cons.inj others
      exact still (by simp)

end Supervision

namespace Session

variable {σ : Type} {w : Watch} {handler : Handler σ}

theorem starter_not_mem_serving {s : Session σ} (serving : s.task = .serving) :
    .starter ∉ s.steps w .task := by
  simp only [steps, serving]
  cases s.progress with
  | opening script => cases (Serving.openWatch w s.serving).result <;> simp
  | following rest =>
    cases rest with
    | nil => simp
    | cons h rest => cases h <;> simp [Happening.steps]
  | closing result => simp

/-- Only turns of the starter are steps of the starter. -/
theorem starter_not_mem_row {turns : List Turn} (still : .starter ∉ turns) (s : Session σ) :
    .starter ∉ s.row w handler turns := by
  induction turns generalizing s with
  | nil => exact List.not_mem_nil
  | cons turn rest ih =>
    rw [List.mem_cons, not_or] at still
    rw [row, List.mem_append, not_or]
    refine ⟨?_, ih still.2 _⟩
    cases turn with
    | starter => exact absurd rfl still.1
    | giveUp => simp [steps]
    | task =>
      cases stage : s.task with
      | serving => exact starter_not_mem_serving stage
      | ended _ | established | cancelling _ _ | finished _ => simp [steps, stage]

end Session

/-! ## Two ways to start -/

namespace Subscription

variable {σ : Type} (w : Watch) (handler : Handler σ) (script : List Happening) (turns : List Turn)

/-- The starter of a subscription is overtaken if the sides take their turns as given. -/
def IsOvertaken (s : Subscription σ) : Prop :=
  Supervision.Overtaken (Session.course w handler script turns s.serving)

variable {w handler script turns}

theorem startInTurns_apply {s : Subscription σ} (unbegun : s.begun = false) :
    startInTurns w handler script turns s =
      let t := Session.complete w handler script turns s.serving
      ⟨t.verdict w, t.chronicle, ⟨true, t.serving⟩⟩ := by
  obtain ⟨begun, serving⟩ := s
  obtain rfl : begun = false := unbegun
  rfl

/-- A start that looks when all is over judges by the flags that a session leaves behind, however its
sides take their turns. -/
theorem exists_start_eq (w : Watch) (handler : Handler σ) (script : List Happening)
    (turns : List Turn) (world : σ) :
    let t := Session.complete w handler script turns (fresh world).serving
    ∃ ending, t.task = .finished ending ∧
      start w handler script (fresh world) =
        ⟨if t.serving.ready || t.serving.lifetime.isOver then .ok ()
          else .error (registrationFailure w ending), t.chronicle, ⟨true, t.serving⟩⟩ := by
  obtain ⟨ending, finished, same⟩ :=
    Session.finished_complete w handler (fresh world).serving script turns
  refine ⟨ending, finished, ?_⟩
  rw [start_apply w handler script rfl (congrArg Outcome.result same), same]

/-- However the sides take their turns, a start leaves the same behind. -/
theorem startInTurns_leaves (world : σ) :
    (startInTurns w handler script turns (fresh world)).chronicle =
        (start w handler script (fresh world)).chronicle ∧
      (startInTurns w handler script turns (fresh world)).state =
        (start w handler script (fresh world)).state := by
  obtain ⟨ending, -, started⟩ := exists_start_eq w handler script turns world
  rw [started, startInTurns_apply rfl]
  exact ⟨rfl, rfl⟩

/-- **A start that is not overtaken.**  It comes to what a start comes to that looks when all is
over. -/
theorem startInTurns_of_not_overtaken (world : σ)
    (inTime : ¬ IsOvertaken w handler script turns (fresh world)) :
    startInTurns w handler script turns (fresh world) = start w handler script (fresh world) := by
  obtain ⟨ending, finished, started⟩ := exists_start_eq w handler script turns world
  rw [started, startInTurns_apply rfl]
  simp only [Session.verdict_of_not_overtaken (Session.supervision_start rfl rfl) inTime finished]

/-- **A start that is overtaken.**  It fails, though one that looks when all is over finds nothing
wrong. -/
theorem startInTurns_of_overtaken (world : σ)
    (overtaken : IsOvertaken w handler script turns (fresh world)) :
    (start w handler script (fresh world)).result = .ok () ∧
      ∃ ending, (startInTurns w handler script turns (fresh world)).result =
        .error (registrationFailure w ending) := by
  obtain ⟨ending, finished, started⟩ := exists_start_eq w handler script turns world
  obtain ⟨blames, past⟩ :=
    Session.verdict_of_overtaken (Session.supervision_start rfl rfl) overtaken finished
  rw [started, startInTurns_apply rfl]
  simp only [past, Bool.or_true, if_true]
  exact ⟨trivial, ending, blames⟩

/-- A starter that comes late is not overtaken. -/
theorem not_isOvertaken_of_late (still : .starter ∉ turns) (s : Subscription σ) :
    ¬ IsOvertaken w handler script turns s := by
  rw [IsOvertaken, Session.course, Session.whole, Session.row_append, Session.row_replicate_starter]
  apply Supervision.not_overtaken_of_late
  apply Session.starter_not_mem_row
  rw [List.mem_append, not_or]
  refine ⟨still, ?_⟩
  intro mem
  cases List.eq_of_mem_replicate mem

end Subscription

end GroupOperator
