import GroupOperator.Watch.Supervision
import Mathlib.Data.List.Induction

/-!
# Nobody waits for a dead watch

Once it has returned from the start, the starter waits for the end of the lifetime, and if the watch
dies meanwhile it is up to the task to end the lifetime.  The two share nothing but flags, and
nobody holds anybody up while he looks at one.  That they never miss each other rests on what each
of them has seen:

* a starter that waits has seen the watch established or the lifetime over, and neither is taken
  back;
* a task that is over though the watch was established has seen the lifetime over, or has ended it.

So a starter that waits beside a finished task finds the lifetime over
(`Watched.isOver_of_waiting`), and in a few steps of its own it comes to its end.

Why the lifetime is over is the business of whoever ended it first.  This is told from the steps
alone: `Concluded` looks at those before the one by which the task finished.
-/

namespace GroupOperator

/-- Whether the task is over. -/
def TaskStage.isFinished : TaskStage → Bool
  | .finished _ => true
  | _ => false

/-- Whether the starter has come to its end, well or not. -/
def StarterStage.isThrough : StarterStage → Bool
  | .returned | .blamed _ => true
  | _ => false

theorem TaskStage.isFinished_iff {stage : TaskStage} :
    stage.isFinished = true ↔ ∃ ending, stage = .finished ending := by
  cases stage <;> simp [isFinished]

/-- How many steps of its own the starter has at most to go, if nothing holds it up. -/
def StarterStage.rank : StarterStage → Nat
  | .lookReady => 4
  | .lookOver => 3
  | .waiting => 2
  | .lookTask | .joining => 1
  | .returned | .blamed _ => 0

theorem StarterStage.rank_le (stage : StarterStage) : stage.rank ≤ 4 := by
  cases stage <;> simp [rank]

theorem StarterStage.isThrough_of_rank {stage : StarterStage} (h : stage.rank = 0) :
    stage.isThrough = true := by
  cases stage with
  | returned | blamed _ => rfl
  | lookReady | lookOver | lookTask | waiting | joining => cases h

/-- The reason given in a step by which somebody other than the task ends the lifetime. -/
def SupervisionStep.cancels? : SupervisionStep → Option Reason
  | .cancel reason => some reason
  | _ => none

namespace Supervision

/-- The reason for which a task ends the lifetime when serving has ended, in a failure or without
one. -/
def closingReason (ending : Option Failure) : Reason :=
  .failure (ending.getD (.interrupted Subscription.unexpectedEnd))

/-- The reason given by the first one, other than the task, who ended the lifetime. -/
def firstCancel? (steps : List SupervisionStep) : Option Reason :=
  steps.findSome? SupervisionStep.cancels?

/-- A task that finished in some step of the row has left the lifetime over, for the reason of the
first one who had ended it by then, or else for its own. -/
def Concluded (steps : List SupervisionStep) (ending : Option Failure) (l : Lifetime) : Prop :=
  ∃ before after, steps = before ++ .task :: after ∧
    (run {} before).task.isFinished = false ∧
    (run {} (before ++ [.task])).task = .finished ending ∧
    l = ⟨true, (firstCancel? before).getD (closingReason ending)⟩

/-! ## Rows of steps -/

theorem run_concat (s : Supervision) (steps : List SupervisionStep) (m : SupervisionStep) :
    s.run (steps ++ [m]) = (s.run steps).step m := by
  simp only [run, List.foldl_append, List.foldl_cons, List.foldl_nil]

theorem firstCancel?_concat (steps : List SupervisionStep) (m : SupervisionStep) :
    firstCancel? (steps ++ [m]) = (firstCancel? steps).or m.cancels? := by
  simp only [firstCancel?, List.findSome?_append, List.findSome?_cons, List.findSome?_nil]
  cases m.cancels? <;> rfl

theorem firstCancel?_concat_of_not_cancel (steps : List SupervisionStep) {m : SupervisionStep}
    (h : m.cancels? = none) : firstCancel? (steps ++ [m]) = firstCancel? steps := by
  rw [firstCancel?_concat, h, Option.or_none]

/-- What a finished task has left stays as it is, whatever follows. -/
theorem Concluded.concat {steps : List SupervisionStep} {ending : Option Failure} {l : Lifetime}
    (h : Concluded steps ending l) (m : SupervisionStep) : Concluded (steps ++ [m]) ending l := by
  obtain ⟨before, after, rfl, unfinished, finished, past⟩ := h
  exact ⟨before, after ++ [m], by simp, unfinished, finished, past⟩

theorem Concluded.isOver {steps : List SupervisionStep} {ending : Option Failure} {l : Lifetime}
    (h : Concluded steps ending l) : l.isOver = true := by
  obtain ⟨before, after, -, -, -, rfl⟩ := h
  rfl

/-- The starter changes nothing but how far it has come, and it comes to wait only after it has seen
a flag up. -/
theorem exists_stepStarter (s : Supervision) :
    ∃ stage, s.stepStarter = { s with starter := stage } ∧
      (stage = .waiting → s.starter = .waiting ∨ s.ready = true ∨ s.lifetime.isOver = true) := by
  rw [stepStarter]
  cases now : s.starter with
  | lookReady =>
    by_cases ready : s.ready = true
    · simp only [if_pos ready]
      exact ⟨.waiting, rfl, fun _ => .inr (.inl ready)⟩
    · simp only [if_neg ready]
      exact ⟨.lookOver, rfl, by simp⟩
  | lookOver =>
    by_cases past : s.lifetime.isOver = true
    · simp only [if_pos past]
      exact ⟨.waiting, rfl, fun _ => .inr (.inr past)⟩
    · simp only [if_neg past]
      exact ⟨.lookTask, rfl, by simp⟩
  | lookTask =>
    cases s.task with
    | finished ending => exact ⟨.blamed ending, rfl, by simp⟩
    | _ => exact ⟨.lookReady, rfl, by simp⟩
  | waiting =>
    by_cases past : s.lifetime.isOver = true
    · simp only [if_pos past]
      exact ⟨.joining, rfl, by simp⟩
    · simp only [if_neg past]
      exact ⟨s.starter, rfl, fun _ => .inl trivial⟩
  | joining =>
    dsimp only
    split
    · exact ⟨.returned, rfl, by simp⟩
    · exact ⟨s.starter, rfl, fun waits => .inl (now.symm.trans waits)⟩
  | returned | blamed _ => exact ⟨s.starter, rfl, fun waits => .inl (now.symm.trans waits)⟩

/-! ## What each side has seen -/

/-- What the two sides have seen, after a row of steps. -/
structure Watched (steps : List SupervisionStep) (s : Supervision) : Prop where
  /-- A starter that waits has seen one of the flags up. -/
  waiting : s.starter = .waiting → s.ready = true ∨ s.lifetime.isOver = true
  /-- A task that looks at the lifetime has seen the watch established. -/
  established : s.task = .established → s.ready = true
  /-- So has a task that is about to end the lifetime, and it knows what to say. -/
  cancelling : ∀ ending reason, s.task = .cancelling ending reason →
    s.ready = true ∧ reason = closingReason ending
  /-- As long as the task has not come to its end, or the watch was never established, the lifetime
  is what the others made of it. -/
  untouched : s.ready = false ∨ s.task.isFinished = false →
    s.lifetime = .endedFor (firstCancel? steps)
  /-- A task that is over though the watch was established has left the lifetime over. -/
  concluded : ∀ ending, s.task = .finished ending → s.ready = true →
    Concluded steps ending s.lifetime

namespace Watched

variable {steps : List SupervisionStep} {s : Supervision}

theorem start : Watched [] {} where
  waiting := nofun
  established := nofun
  cancelling := nofun
  untouched _ := rfl
  concluded := nofun

/-- A step of the starter keeps what was seen, if it does not come to wait without having seen a
flag up. -/
theorem of_starter (h : Watched steps s) (m : SupervisionStep) (other : m.cancels? = none)
    (stage : StarterStage)
    (sees : stage = .waiting → s.ready = true ∨ s.lifetime.isOver = true) :
    Watched (steps ++ [m]) { s with starter := stage } where
  waiting := sees
  established := h.established
  cancelling := h.cancelling
  untouched early := by
    rw [firstCancel?_concat_of_not_cancel steps other]
    exact h.untouched early
  concluded ending finished ready := (h.concluded ending finished ready).concat m

/-- A step of the task keeps what was seen as long as it does not finish it. -/
theorem of_task (h : Watched steps s) (unfinished : s.task.isFinished = false) (m : SupervisionStep)
    (other : m.cancels? = none) (stage : TaskStage) (goes : stage.isFinished = false)
    (established : stage = .established → s.ready = true)
    (cancelling : ∀ ending reason, stage = .cancelling ending reason →
      s.ready = true ∧ reason = closingReason ending) :
    Watched (steps ++ [m]) { s with task := stage } where
  waiting := h.waiting
  established := established
  cancelling := cancelling
  untouched _ := by
    rw [firstCancel?_concat_of_not_cancel steps other]
    exact h.untouched (.inr unfinished)
  concluded ending finished := by
    rw [show stage = .finished ending from finished] at goes
    cases goes

/-- A task that finishes before the watch was established leaves the lifetime to the others. -/
theorem of_failed_start (h : Watched steps s) (unready : s.ready = false)
    (ending : Option Failure) :
    Watched (steps ++ [.task]) { s with task := .finished ending } where
  waiting := h.waiting
  established := nofun
  cancelling := nofun
  untouched _ := by
    rw [firstCancel?_concat_of_not_cancel steps rfl]
    exact h.untouched (.inl unready)
  concluded _ _ ready := by
    rw [show s.ready = true from ready] at unready
    cases unready

/-- A task that finishes with the lifetime over has concluded. -/
theorem of_finish (reached : s = run {} steps) (unfinished : s.task.isFinished = false)
    (ready : s.ready = true) {ending : Option Failure} {l : Lifetime}
    (made : s.step .task = { s with task := .finished ending, lifetime := l })
    (past : l = ⟨true, (firstCancel? steps).getD (closingReason ending)⟩) :
    Watched (steps ++ [.task]) { s with task := .finished ending, lifetime := l } where
  waiting _ := .inl ready
  established := nofun
  cancelling := nofun
  untouched early := by
    rcases early with unready | goes
    · rw [show s.ready = false from unready] at ready
      cases ready
    · cases goes
  concluded ending' finished _ := by
    obtain rfl : ending = ending' := TaskStage.finished.inj finished
    refine ⟨steps, [], rfl, ?_, ?_, past⟩
    · rw [← reached]
      exact unfinished
    · rw [run_concat, ← reached, made]

/-- Somebody ends the lifetime. -/
theorem of_cancel (h : Watched steps s) (reason : Reason) :
    Watched (steps ++ [.cancel reason]) { s with lifetime := s.lifetime.cancel reason } where
  waiting _ := .inr (Lifetime.isOver_cancel _ _)
  established := h.established
  cancelling := h.cancelling
  untouched early := by
    rw [h.untouched early, firstCancel?_concat, Lifetime.cancel_endedFor]
    cases firstCancel? steps <;> rfl
  concluded ending finished ready := by
    have concluded := h.concluded ending finished ready
    rw [Lifetime.cancel_of_isOver concluded.isOver]
    exact concluded.concat _

/-- The task goes on after serving. -/
theorem stepTask (h : Watched steps s) (reached : s = run {} steps) :
    Watched (steps ++ [.task]) s.stepTask := by
  have made : s.step .task = s.stepTask := rfl
  have unchanged : Watched (steps ++ [.task]) s := h.of_starter .task rfl s.starter h.waiting
  rw [Supervision.stepTask] at made ⊢
  cases stage : s.task with
  | serving => exact unchanged
  | finished ending => exact unchanged
  | ended ending =>
    have unfinished : s.task.isFinished = false := by rw [stage]; rfl
    by_cases ready : s.ready = true
    · cases ending with
      | none =>
        simp only [if_pos ready]
        refine h.of_task unfinished .task rfl .established rfl (fun _ => ready) ?_
        intro ending reason other
        cases other
      | some f =>
        simp only [if_pos ready]
        refine h.of_task unfinished .task rfl (.cancelling (some f) (.failure f)) rfl ?_ ?_
        · intro other
          cases other
        · intro ending reason same
          cases same
          exact ⟨ready, rfl⟩
    · have unready : s.ready = false := Bool.eq_false_iff.mpr ready
      cases ending with
      | none =>
        simp only [if_neg ready]
        exact h.of_failed_start unready none
      | some f =>
        simp only [if_neg ready]
        exact h.of_failed_start unready (some f)
  | established =>
    have unfinished : s.task.isFinished = false := by rw [stage]; rfl
    have ready : s.ready = true := h.established stage
    have first := h.untouched (.inr unfinished)
    by_cases past : s.lifetime.isOver = true
    · simp only [stage, if_pos past] at made ⊢
      apply of_finish reached unfinished ready made
      rw [first, Lifetime.isOver_endedFor] at past
      obtain ⟨r, hr⟩ := Option.isSome_iff_exists.mp past
      rw [first, hr]
      rfl
    · simp only [if_neg past]
      refine h.of_task unfinished .task rfl
        (.cancelling none (.failure (.interrupted Subscription.unexpectedEnd))) rfl ?_ ?_
      · intro other
        cases other
      · intro ending reason same
        cases same
        exact ⟨ready, rfl⟩
  | cancelling ending reason =>
    have unfinished : s.task.isFinished = false := by rw [stage]; rfl
    obtain ⟨ready, rfl⟩ := h.cancelling ending reason stage
    simp only [stage] at made
    apply of_finish reached unfinished ready made
    rw [h.untouched (.inr unfinished), Lifetime.cancel_endedFor]

/-- Every step keeps what was seen. -/
theorem concat (h : Watched steps s) (reached : s = run {} steps) (m : SupervisionStep) :
    Watched (steps ++ [m]) (s.step m) := by
  cases m with
  | establish =>
    rw [Supervision.step]
    split
    · rename_i serving
      exact {
        waiting := fun _ => .inl rfl
        established := fun _ => rfl
        cancelling := fun ending reason early => by
          rw [show s.task = _ from early] at serving
          cases serving
        untouched := fun _ => by
          rw [firstCancel?_concat_of_not_cancel steps rfl]
          exact h.untouched (.inr (by rw [serving]; rfl))
        concluded := fun ending finished => by
          rw [show s.task = _ from finished] at serving
          cases serving }
    · exact h.of_starter .establish rfl s.starter h.waiting
  | endServing ending =>
    rw [Supervision.step]
    split
    · rename_i serving
      have unfinished : s.task.isFinished = false := by rw [serving]; rfl
      refine h.of_task unfinished (.endServing ending) rfl (.ended ending) rfl ?_ ?_
      · intro other
        cases other
      · intro ending reason other
        cases other
    · exact h.of_starter (.endServing ending) rfl s.starter h.waiting
  | task => exact h.stepTask reached
  | starter =>
    obtain ⟨stage, goes, sees⟩ := exists_stepStarter s
    rw [Supervision.step, goes]
    refine h.of_starter .starter rfl stage ?_
    intro waits
    rcases sees waits with waited | seen
    · exact h.waiting waited
    · exact seen
  | giveUp =>
    rw [Supervision.step]
    split
    · refine h.of_starter .giveUp rfl .returned ?_
      intro other
      cases other
    · exact h.of_starter .giveUp rfl s.starter h.waiting
  | cancel reason => exact h.of_cancel reason

end Watched

/-- After any row of steps the two sides have seen what they should have. -/
theorem watched_run (steps : List SupervisionStep) : Watched steps (run {} steps) := by
  induction steps using List.reverseRecOn with
  | nil => exact .start
  | append_singleton steps m ih =>
    rw [run_concat]
    exact ih.concat rfl m

theorem Watched.isOver {steps : List SupervisionStep} {s : Supervision} (h : Watched steps s)
    (finished : s.task.isFinished = true) (ready : s.ready = true) : s.lifetime.isOver = true := by
  obtain ⟨ending, stage⟩ := TaskStage.isFinished_iff.mp finished
  exact (h.concluded ending stage ready).isOver

/-- Nobody waits beside a finished task for a lifetime that goes on. -/
theorem Watched.isOver_of_waiting {steps : List SupervisionStep} {s : Supervision}
    (h : Watched steps s) (finished : s.task.isFinished = true) (waits : s.starter = .waiting) :
    s.lifetime.isOver = true := by
  rcases h.waiting waits with ready | past
  · exact h.isOver finished ready
  · exact past

/-! ## The starter comes to its end -/

/-- Beside a finished task every step of the starter takes it nearer to its end. -/
theorem Watched.rank_stepStarter {steps : List SupervisionStep} {s : Supervision}
    (h : Watched steps s) (finished : s.task.isFinished = true) :
    s.stepStarter.starter.rank ≤ s.starter.rank - 1 := by
  obtain ⟨ending, past⟩ := TaskStage.isFinished_iff.mp finished
  rw [stepStarter]
  cases stage : s.starter with
  | lookReady => by_cases ready : s.ready = true <;> simp [ready, StarterStage.rank]
  | lookOver => by_cases past : s.lifetime.isOver = true <;> simp [past, StarterStage.rank]
  | lookTask => simp [past, StarterStage.rank]
  | waiting => simp [h.isOver_of_waiting finished stage, StarterStage.rank]
  | joining => simp [past, StarterStage.rank]
  | returned | blamed _ => simp [stage, StarterStage.rank]

theorem task_stepStarter (s : Supervision) : s.stepStarter.task = s.task := by
  obtain ⟨stage, goes, -⟩ := exists_stepStarter s
  rw [goes]

/-- The starter alone, beside a finished task. -/
theorem rank_run_starter (steps : List SupervisionStep)
    (finished : (run {} steps).task.isFinished = true) (n : Nat) :
    (run {} (steps ++ .replicate n .starter)).task.isFinished = true ∧
      (run {} (steps ++ .replicate n .starter)).starter.rank ≤
        (run {} steps).starter.rank - n := by
  induction n with
  | zero => simpa using finished
  | succ n ih =>
    obtain ⟨still, less⟩ := ih
    rw [List.replicate_succ', ← List.append_assoc, run_concat]
    have nearer := (watched_run (steps ++ .replicate n .starter)).rank_stepStarter still
    refine ⟨?_, ?_⟩
    · rw [step, task_stepStarter]
      exact still
    · rw [step]
      omega

/-- **Nobody waits for a dead watch.**  After any row of steps of all sides: if the task is over
though the watch was established, so is the lifetime; the starter never waits beside a finished task
for a lifetime that goes on, and four steps of its own bring it to its end.  A task that finishes
after the watch was established leaves the reason of the first one who had ended the lifetime by
then, and else the failure that serving ended in, or an interruption if it ended without one; in all
other cases the lifetime is what the others made of it. -/
theorem nobody_waits_for_dead_watch (steps : List SupervisionStep) :
    ((run {} steps).task.isFinished = true → (run {} steps).ready = true →
      (run {} steps).lifetime.isOver = true) ∧
    ¬ ((run {} steps).starter = .waiting ∧ (run {} steps).lifetime.isOver = false ∧
      (run {} steps).task.isFinished = true) ∧
    ((run {} steps).task.isFinished = true →
      (run {} (steps ++ .replicate 4 .starter)).starter.isThrough = true) ∧
    (∀ ending, (run {} steps).task = .finished ending → (run {} steps).ready = true →
      Concluded steps ending (run {} steps).lifetime) ∧
    ((run {} steps).ready = false ∨ (run {} steps).task.isFinished = false →
      (run {} steps).lifetime = .endedFor (firstCancel? steps)) := by
  have watched := watched_run steps
  refine ⟨watched.isOver, ?_, ?_, watched.concluded, watched.untouched⟩
  · rintro ⟨waits, goesOn, finished⟩
    rw [watched.isOver_of_waiting finished waits] at goesOn
    cases goesOn
  · intro finished
    obtain ⟨-, near⟩ := rank_run_starter steps finished 4
    have far := StarterStage.rank_le (run {} steps).starter
    apply StarterStage.isThrough_of_rank
    omega

/-- A watch that is established, noticed to be so, and then breaks.  Before the task comes to say
why, somebody else ends the lifetime gracefully. -/
def brokenWatch : List SupervisionStep :=
  [.establish, .starter, .endServing (some (.interrupted "watch stream closed")), .task,
    .cancel .graceful, .task]

theorem brokenWatch_noticed :
    (run {} brokenWatch).task.isFinished = true ∧ (run {} brokenWatch).ready = true ∧
      (run {} brokenWatch).lifetime.isOver = true ∧
      (run {} (brokenWatch ++ .replicate 4 .starter)).starter.isThrough = true ∧
      Concluded brokenWatch (some (.interrupted "watch stream closed"))
        (run {} brokenWatch).lifetime ∧
      (run {} (brokenWatch.take 5)).task.isFinished = false ∧
      (run {} (brokenWatch.take 5)).lifetime = ⟨true, .graceful⟩ := by
  obtain ⟨past, -, through, concluded, -⟩ := nobody_waits_for_dead_watch brokenWatch
  obtain ⟨-, -, -, -, untouched⟩ := nobody_waits_for_dead_watch (brokenWatch.take 5)
  exact ⟨rfl, rfl, past rfl rfl, through rfl, concluded _ rfl rfl, rfl, untouched (.inr rfl)⟩

end Supervision

end GroupOperator
