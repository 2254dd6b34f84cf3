import GroupOperator.Proofs.Waiting

/-!
# Whom the starter blames

A starter that finds the task over blames the watch, having found before that it was not established
and that the lifetime was not over.  These are three looks, and what the first two found may be out
of date at the third.  The watch is to blame if it was not established, and the lifetime not over,
when the task finished (`IsToBlame`).

Flags only go up, and a task whose watch was established leaves the lifetime over.  So there is one
way to be blamed for nothing (`Overtaken`): between the look at the lifetime and the look at the
task the lifetime comes to be over and the task finishes.  That the flag of the watch was looked at
even earlier does no harm, for a watch that is established after that look cannot finish and leave
the lifetime going on.

`blamed_justly_iff` says that this is all.  It does happen: somebody ends the lifetime in that gap
and the task does as it is told, or the watch is established and breaks in it
(`stoppedStart_blamed`).
-/

namespace GroupOperator

namespace Supervision

/-- The task finishes in the step of its own that follows the row. -/
structure EndsAfter (steps : List SupervisionStep) (ending : Option Failure) : Prop where
  /-- It was not over before. -/
  unfinished : (run {} steps).task.isFinished = false
  /-- It is over then. -/
  finished : (run {} (steps ++ [.task])).task = .finished ending

/-- The watch is to blame: when the task finished, the watch had not been established and the
lifetime was not over. -/
def IsToBlame (steps : List SupervisionStep) (ending : Option Failure) : Prop :=
  ∃ before after, steps = before ++ .task :: after ∧ EndsAfter before ending ∧
    (run {} (before ++ [.task])).ready = false ∧
    (run {} (before ++ [.task])).lifetime.isOver = false

/-- After the first row the starter looks at the lifetime and finds that it goes on.  In the second
row it does nothing. -/
structure Gap (early between : List SupervisionStep) : Prop where
  /-- The starter is about to look at the lifetime. -/
  looks : (run {} early).starter = .lookOver
  /-- The lifetime is not over. -/
  goesOn : (run {} early).lifetime.isOver = false
  /-- The starter is slow. -/
  still : .starter ∉ between

/-- The starter was overtaken: in the gap between its look at the lifetime and its look at the task
the task finished, with the lifetime over by then. -/
def Overtaken (steps : List SupervisionStep) : Prop :=
  ∃ early before after late ending,
    steps = early ++ .starter :: (before ++ .task :: after ++ .starter :: late) ∧
    Gap early (before ++ .task :: after) ∧ EndsAfter (early ++ .starter :: before) ending ∧
    (run {} (early ++ .starter :: before ++ [.task])).lifetime.isOver = true

/-! ## What is not taken back -/

variable {s : Supervision} {steps : List SupervisionStep} {ending : Option Failure}

theorem run_append (s : Supervision) (first second : List SupervisionStep) :
    s.run (first ++ second) = (s.run first).run second := by
  rw [run, List.foldl_append, run, run]

theorem isOver_run (past : s.lifetime.isOver = true) (steps : List SupervisionStep) :
    (s.run steps).lifetime.isOver = true := by
  induction steps using List.reverseRecOn with
  | nil => exact past
  | append_singleton steps m ih =>
    rw [run_concat]
    exact isOver_step m ih

/-- Only a step of the task finishes it. -/
theorem finished_of_step (s : Supervision) {m : SupervisionStep} (other : m ≠ .task)
    (finished : (s.step m).task = .finished ending) : s.task = .finished ending := by
  cases m with
  | establish =>
    rw [step] at finished
    split at finished <;> exact finished
  | endServing e =>
    rw [step] at finished
    split at finished
    · cases finished
    · exact finished
  | task => exact absurd rfl other
  | starter =>
    rw [step, task_stepStarter] at finished
    exact finished
  | giveUp =>
    rw [step] at finished
    split at finished <;> exact finished
  | cancel reason => exact finished

theorem finished_step (finished : s.task = .finished ending) (m : SupervisionStep) :
    (s.step m).task = .finished ending := by
  cases m with
  | establish =>
    rw [step]
    split <;> exact finished
  | endServing e =>
    rw [step]
    split
    · rename_i serving
      rw [finished] at serving
      cases serving
    · exact finished
  | task =>
    rw [step, stepTask]
    simp only [finished]
  | starter =>
    rw [step, task_stepStarter]
    exact finished
  | giveUp =>
    rw [step]
    split <;> exact finished
  | cancel reason => exact finished

theorem finished_run (finished : s.task = .finished ending) (steps : List SupervisionStep) :
    (s.run steps).task = .finished ending := by
  induction steps using List.reverseRecOn with
  | nil => exact finished
  | append_singleton steps m ih =>
    rw [run_concat]
    exact finished_step ih m

/-! ## The end of the task -/

/-- A task that is over has finished in one of its steps. -/
theorem exists_end (finished : (run {} steps).task = .finished ending) :
    ∃ before after, steps = before ++ .task :: after ∧ EndsAfter before ending := by
  induction steps using List.reverseRecOn with
  | nil => cases finished
  | append_singleton steps m ih =>
    cases now : (run {} steps).task.isFinished with
    | true =>
      obtain ⟨ended, past⟩ := TaskStage.isFinished_iff.mp now
      have same := finished_step past m
      rw [run_concat, same] at finished
      rw [finished] at past
      obtain ⟨before, after, rfl, ends⟩ := ih past
      exact ⟨before, after ++ [m], by simp, ends⟩
    | false =>
      by_cases task : m = .task
      · obtain rfl := task
        exact ⟨steps, [], rfl, now, finished⟩
      · rw [run_concat] at finished
        rw [finished_of_step _ task finished] at now
        cases now

/-- A task that has finished does not do so again. -/
theorem EndsAfter.not_before {before rest : List SupervisionStep} {other : Option Failure}
    (ends : EndsAfter before ending) : ¬ EndsAfter (before ++ .task :: rest) other := by
  intro again
  have past := finished_run ends.finished rest
  rw [← run_append, List.append_assoc, List.singleton_append] at past
  have unfinished := again.unfinished
  rw [past] at unfinished
  cases unfinished

/-- A task finishes once. -/
theorem EndsAfter.unique {before after before' after' : List SupervisionStep}
    {other : Option Failure} (ends : EndsAfter before ending) (ends' : EndsAfter before' other)
    (same : before ++ .task :: after = before' ++ .task :: after') : before = before' := by
  rcases List.append_eq_append_iff.mp same with ⟨rest, rfl, split⟩ | ⟨rest, rfl, split⟩
  · cases rest with
    | nil => exact (List.append_nil _).symm
    | cons m rest =>
      obtain ⟨rfl, -⟩ := List.cons.inj split
      exact absurd ends' ends.not_before
  · cases rest with
    | nil => exact List.append_nil _
    | cons m rest =>
      obtain ⟨rfl, -⟩ := List.cons.inj split
      exact absurd ends ends'.not_before

/-! ## The gap -/

/-- Only the starter itself comes further, except that it may be told to wait no longer. -/
theorem starter_step_of_ne (s : Supervision) {m : SupervisionStep} (other : m ≠ .starter) :
    (s.step m).starter = s.starter ∨
      s.starter = .joining ∧ (s.step m).starter = .returned := by
  cases m with
  | establish | endServing e =>
    rw [step]
    split <;> exact .inl rfl
  | task =>
    rw [step, stepTask]
    split <;> exact .inl rfl
  | starter => exact absurd rfl other
  | giveUp =>
    rw [step]
    split
    · rename_i joined
      exact .inr ⟨joined, rfl⟩
    · exact .inl rfl
  | cancel reason => exact .inl rfl

theorem starter_of_step {m : SupervisionStep} {stage : StarterStage} (other : m ≠ .starter)
    (reached : (s.step m).starter = stage) (busy : stage ≠ .returned) : s.starter = stage := by
  rcases starter_step_of_ne s other with same | ⟨-, returned⟩
  · exact same.symm.trans reached
  · exact absurd (reached.symm.trans returned) busy

/-- How far a step of its own takes the starter. -/
inductive StarterMove (s : Supervision) : StarterStage → Prop where
  /-- It has found the watch established. -/
  | sawReady (looked : s.starter = .lookReady) (ready : s.ready = true) : StarterMove s .waiting
  /-- It has found the watch not established. -/
  | missedReady (looked : s.starter = .lookReady) (unready : s.ready = false) :
      StarterMove s .lookOver
  /-- It has found the lifetime over. -/
  | sawOver (looked : s.starter = .lookOver) (past : s.lifetime.isOver = true) :
      StarterMove s .waiting
  /-- It has found that the lifetime goes on. -/
  | missedOver (looked : s.starter = .lookOver) (goesOn : s.lifetime.isOver = false) :
      StarterMove s .lookTask
  /-- It has found the task over. -/
  | blames {ending : Option Failure} (looked : s.starter = .lookTask)
      (finished : s.task = .finished ending) : StarterMove s (.blamed ending)
  /-- It has found the task at work. -/
  | goesRound (looked : s.starter = .lookTask) (busy : s.task.isFinished = false) :
      StarterMove s .lookReady
  /-- It has waited for the end of the lifetime. -/
  | joins (waited : s.starter = .waiting) (past : s.lifetime.isOver = true) : StarterMove s .joining
  /-- It has waited for the task. -/
  | returns (joined : s.starter = .joining) (finished : s.task.isFinished = true) :
      StarterMove s .returned
  /-- It goes on waiting, or has come to its end. -/
  | stays {stage : StarterStage} (same : s.starter = stage)
      (rests : stage = .waiting ∨ stage = .joining ∨ stage.isThrough = true) : StarterMove s stage

/-- The one inversion of the starter: everything that a step of its own can do to it. -/
theorem starterMove_stepStarter (s : Supervision) : StarterMove s s.stepStarter.starter := by
  rw [stepStarter]
  cases stage : s.starter with
  | lookReady =>
    cases ready : s.ready with
    | true => exact .sawReady stage ready
    | false => exact .missedReady stage ready
  | lookOver =>
    cases past : s.lifetime.isOver with
    | true => exact .sawOver stage past
    | false => exact .missedOver stage past
  | lookTask =>
    cases task : s.task with
    | finished ending => exact .blames stage task
    | serving | ended _ | established | cancelling _ _ =>
      exact .goesRound stage (by rw [task]; rfl)
  | waiting =>
    cases past : s.lifetime.isOver with
    | true => exact .joins stage past
    | false => exact .stays rfl (.inl stage)
  | joining =>
    cases task : s.task with
    | finished ending => exact .returns stage (by rw [task]; rfl)
    | serving | ended _ | established | cancelling _ _ => exact .stays rfl (.inr (.inl stage))
  | returned | blamed _ => exact .stays rfl (.inr (.inr (by rw [stage]; rfl)))

/-- A starter that is about to look at the task is in the gap. -/
theorem exists_gap (looks : (run {} steps).starter = .lookTask) :
    ∃ early between, steps = early ++ .starter :: between ∧ Gap early between := by
  induction steps using List.reverseRecOn with
  | nil => cases looks
  | append_singleton steps m ih =>
    rw [run_concat] at looks
    by_cases own : m = .starter
    · obtain rfl := own
      have move := starterMove_stepStarter (run {} steps)
      rw [show (run {} steps).stepStarter.starter = .lookTask from looks] at move
      cases move with
      | missedOver looked goesOn => exact ⟨steps, [], rfl, looked, goesOn, List.not_mem_nil⟩
      | stays same rests => rcases rests with rests | rests | rests <;> cases rests
    · obtain ⟨early, between, rfl, gap⟩ := ih (starter_of_step own looks (by decide))
      refine ⟨early, between ++ [m], by simp, gap.looks, gap.goesOn, ?_⟩
      intro mem
      rcases List.mem_append.mp mem with mem | mem
      · exact gap.still mem
      · exact own (List.mem_singleton.mp mem).symm

/-- A starter that blames the watch has come out of the gap and found the task over. -/
theorem exists_gap_of_blamed (blamed : (run {} steps).starter = .blamed ending) :
    ∃ early between late, steps = early ++ .starter :: (between ++ .starter :: late) ∧
      Gap early between ∧ (run {} (early ++ .starter :: between)).task = .finished ending := by
  induction steps using List.reverseRecOn with
  | nil => cases blamed
  | append_singleton steps m ih =>
    have earlier (before : (run {} steps).starter = .blamed ending) :
        ∃ early between late, steps ++ [m] = early ++ .starter :: (between ++ .starter :: late) ∧
          Gap early between ∧
          (run {} (early ++ .starter :: between)).task = .finished ending := by
      obtain ⟨early, between, late, rfl, gap, finished⟩ := ih before
      exact ⟨early, between, late ++ [m], by simp, gap, finished⟩
    rw [run_concat] at blamed
    by_cases own : m = .starter
    · obtain rfl := own
      have move := starterMove_stepStarter (run {} steps)
      rw [show (run {} steps).stepStarter.starter = .blamed ending from blamed] at move
      cases move with
      | blames looked finished =>
        obtain ⟨early, between, rfl, gap⟩ := exists_gap looked
        exact ⟨early, between, [], by simp, gap, finished⟩
      | stays same rests => exact earlier same
    · apply earlier
      apply starter_of_step own blamed
      intro returned
      cases returned

/-- A starter that blames the watch names the ending that the task came to, at the latest in the
gap. -/
theorem exists_end_of_blamed (blamed : (run {} steps).starter = .blamed ending) :
    ∃ early between late before after, steps = early ++ .starter :: (between ++ .starter :: late) ∧
      Gap early between ∧ early ++ .starter :: between = before ++ .task :: after ∧
      steps = before ++ .task :: (after ++ .starter :: late) ∧ EndsAfter before ending := by
  obtain ⟨early, between, late, rfl, gap, finished⟩ := exists_gap_of_blamed blamed
  obtain ⟨before, after, same, ends⟩ := exists_end finished
  refine ⟨early, between, late, before, after, rfl, gap, same, ?_, ends⟩
  rw [← List.cons_append, ← List.append_assoc, same, List.append_assoc, List.cons_append]

/-- A task that leaves the lifetime over, and is over at the end of the gap, finished in it. -/
theorem Gap.of_end {early between before after : List SupervisionStep} (gap : Gap early between)
    (same : early ++ .starter :: between = before ++ .task :: after)
    (past : (run {} (before ++ [.task])).lifetime.isOver = true) :
    ∃ inner, before = early ++ .starter :: inner ∧ between = inner ++ .task :: after := by
  rcases List.append_eq_append_iff.mp same with ⟨rest, rfl, split⟩ | ⟨rest, rfl, split⟩
  · cases rest with
    | nil => cases split
    | cons m inner =>
      obtain ⟨rfl, rfl⟩ := List.cons.inj split
      exact ⟨inner, rfl, rfl⟩
  · cases rest with
    | nil => cases split
    | cons m rest =>
      -- the end would come before the look, which then had found the lifetime over
      obtain ⟨rfl, -⟩ := List.cons.inj split
      have still := isOver_run past rest
      rw [← run_append, List.append_assoc, List.singleton_append, gap.goesOn] at still
      cases still

/-- Where a starter that blames the watch was not overtaken, the task left neither flag up. -/
theorem flags_down_of_not_overtaken {before after : List SupervisionStep} {other : Option Failure}
    (blamed : (run {} steps).starter = .blamed ending) (inTime : ¬ Overtaken steps)
    (split : steps = before ++ .task :: after) (ends : EndsAfter before other) :
    (run {} (before ++ [.task])).ready = false ∧
      (run {} (before ++ [.task])).lifetime.isOver = false := by
  obtain ⟨early, between, late, first, after', rfl, gap, same, split', ends'⟩ :=
    exists_end_of_blamed blamed
  obtain rfl := ends'.unique ends (split'.symm.trans split)
  have goesOn : (run {} (first ++ [.task])).lifetime.isOver = false := by
    apply Bool.eq_false_iff.mpr
    intro past
    obtain ⟨inner, rfl, rfl⟩ := gap.of_end same past
    exact inTime ⟨early, inner, after', late, ending, rfl, gap, ends', past⟩
  refine ⟨?_, goesOn⟩
  apply Bool.eq_false_iff.mpr
  intro ready
  have through : (run {} (first ++ [.task])).task.isFinished = true :=
    TaskStage.isFinished_iff.mpr ⟨ending, ends'.finished⟩
  rw [(watched_run _).isOver through ready] at goesOn
  cases goesOn

/-! ## Justly or not -/

/-- **Whom the starter blames.**  After any row of steps of all sides: a starter that blames the
watch names the ending that the task did come to, and the watch is to blame for it unless the
starter was overtaken. -/
theorem blamed_justly_iff (steps : List SupervisionStep) (ending : Option Failure)
    (blamed : (run {} steps).starter = .blamed ending) :
    (∃ before after, steps = before ++ .task :: after ∧ EndsAfter before ending) ∧
      (IsToBlame steps ending ↔ ¬ Overtaken steps) := by
  obtain ⟨_, _, _, before, _, _, _, _, split, ends⟩ := exists_end_of_blamed blamed
  refine ⟨⟨before, _, split, ends⟩, ?_, ?_⟩
  · rintro ⟨first, rest, split, endsFirst, -, goesOn⟩
    rintro ⟨early, inner, inner', late, other, split', -, endsInner, past⟩
    have twice : first ++ .task :: rest =
        (early ++ .starter :: inner) ++ .task :: (inner' ++ .starter :: late) := by
      rw [← split, split']
      simp
    have one := endsFirst.unique endsInner twice
    rw [one, past] at goesOn
    cases goesOn
  · intro inTime
    obtain ⟨unready, goesOn⟩ := flags_down_of_not_overtaken blamed inTime split ends
    exact ⟨before, _, split, ends, unready, goesOn⟩

/-- A start in which somebody ends the lifetime gracefully, and the task does as it is told, while
the starter is in the gap. -/
def stoppedStart : List SupervisionStep :=
  [.starter, .starter, .cancel .graceful, .endServing none, .task, .starter]

/-- A start in which the watch is established, breaks and ends the lifetime while the starter is in
the gap. -/
def brokenStart : List SupervisionStep :=
  [.starter, .starter, .establish, .endServing (some (.interrupted "watch stream closed")), .task,
    .task, .starter]

/-- A start that fails because the watch ends before it is established. -/
def failedStart : List SupervisionStep :=
  [.starter, .starter, .endServing (some (.interrupted "forbidden")), .task, .starter]

theorem stoppedStart_blamed :
    ((run {} stoppedStart).starter = .blamed none ∧
      (run {} stoppedStart).lifetime = ⟨true, .graceful⟩ ∧
      Overtaken stoppedStart ∧ ¬ IsToBlame stoppedStart none) ∧
    ((run {} brokenStart).starter = .blamed (some (.interrupted "watch stream closed")) ∧
      (run {} brokenStart).ready = true ∧
      (run {} brokenStart).lifetime = ⟨true, .failure (.interrupted "watch stream closed")⟩ ∧
      Overtaken brokenStart ∧ ¬ IsToBlame brokenStart (some (.interrupted "watch stream closed"))) ∧
    (run {} failedStart).starter = .blamed (some (.interrupted "forbidden")) ∧
      IsToBlame failedStart (some (.interrupted "forbidden")) ∧ ¬ Overtaken failedStart := by
  have stopped : Overtaken stoppedStart :=
    ⟨[.starter], [.cancel .graceful, .endServing none], [], [], none, rfl,
      ⟨rfl, rfl, by decide⟩, ⟨rfl, rfl⟩, rfl⟩
  have broken : Overtaken brokenStart :=
    ⟨[.starter], [.establish, .endServing (some (.interrupted "watch stream closed")), .task], [],
      [], some (.interrupted "watch stream closed"), rfl, ⟨rfl, rfl, by decide⟩, ⟨rfl, rfl⟩, rfl⟩
  have justly : IsToBlame failedStart (some (.interrupted "forbidden")) :=
    ⟨[.starter, .starter, .endServing (some (.interrupted "forbidden"))], [.starter], rfl,
      ⟨rfl, rfl⟩, rfl, rfl⟩
  obtain ⟨-, stoppedIff⟩ := blamed_justly_iff stoppedStart none rfl
  obtain ⟨-, brokenIff⟩ :=
    blamed_justly_iff brokenStart (some (.interrupted "watch stream closed")) rfl
  obtain ⟨-, failedIff⟩ := blamed_justly_iff failedStart (some (.interrupted "forbidden")) rfl
  refine ⟨⟨rfl, rfl, stopped, ?_⟩, ⟨rfl, rfl, rfl, broken, ?_⟩, rfl, justly, failedIff.mp justly⟩
  · intro toBlame
    exact stoppedIff.mp toBlame stopped
  · intro toBlame
    exact brokenIff.mp toBlame broken

end Supervision

end GroupOperator
