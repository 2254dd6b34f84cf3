import GroupOperator.Operator

/-!
# How serving ends for the operator

Serving ends in a failure or without one, with a watch that was established or was not, and leaves a
lifetime.  What a start comes to (`Subscription.start_fresh`) and why the operator stopped
(`Operator.runBy_apply`) depend on these three only, and whether it stopped gracefully depends on
the lifetime alone: a failure of serving becomes the reason where nobody has given one, and an error
where nobody was there to give one.
-/

namespace GroupOperator

/-! ## Parts that are only tried -/

namespace Action

variable {σ α β : Type}

theorem result_attempt_bind (p : Action σ α) (k : Except Failure α → Action σ β) (s : σ) :
    (p.attempt.bind k s).result = (k (p s).result (p s).state).result := rfl

theorem state_attempt_bind (p : Action σ α) (k : Except Failure α → Action σ β) (s : σ) :
    (p.attempt.bind k s).state = (k (p s).result (p s).state).state := rfl

/-- What follows a try knows of it what it comes to. -/
theorem attempt_bind_congr {p p' : Action σ α} {s : σ} (same : p s = p' s)
    (k : Except Failure α → Action σ β) : p.attempt.bind k s = p'.attempt.bind k s := by
  simp only [Action.bind, Action.attempt, same]

/-- It matters only how things go on from where a try leaves off. -/
theorem attempt_bind_congr_right {p : Action σ α} {k k' : Except Failure α → Action σ β} {s : σ}
    (same : k (p s).result (p s).state = k' (p s).result (p s).state) :
    p.attempt.bind k s = p.attempt.bind k' s := by
  simp only [Action.bind, Action.attempt, same]

end Action

/-! ## Graceful ends -/

namespace Lifetime

/-- A lifetime that is over ended gracefully if its reason is none. -/
theorem reason_eq_graceful_iff {l : Lifetime} (past : l.isOver = true) :
    l.reason = .graceful ↔ l = endedFor (some .graceful) := by
  obtain ⟨flag, reason⟩ := l
  obtain rfl : flag = true := past
  constructor
  · rintro rfl
    rfl
  · intro ended
    exact congrArg Lifetime.reason ended

/-- A failure is no graceful end, so the end was graceful only if it came before. -/
theorem reason_cancel_failure_iff (f : Failure) (l : Lifetime) :
    (l.cancel (.failure f)).reason = .graceful ↔ l = endedFor (some .graceful) := by
  cases past : l.isOver with
  | true =>
    rw [cancel_of_isOver past]
    exact reason_eq_graceful_iff past
  | false =>
    have fails : (l.cancel (.failure f)).reason = .failure f := by
      rw [cancel, ← isOver, past]
      rfl
    rw [fails]
    refine iff_of_false ?_ ?_
    · intro same
      cases same
    · rintro rfl
      cases past

end Lifetime

/-! ## A subscription -/

namespace Subscription

variable {σ : Type} (w : Watch) (handler : Handler σ) (script : List Happening)

/-- A subscription that nobody has started. -/
def fresh (world : σ) : Subscription σ :=
  { serving := { watching := { outside := world } } }

/-- What becomes of the lifetime when serving has ended: where the watch was established, nobody may
take it for still being served. -/
def lifetimeAfter (served : Outcome (Serving σ) Unit) : Lifetime :=
  if served.state.ready then
    match served.result with
    | .error f => served.state.lifetime.cancel (.failure f)
    | .ok () => served.state.lifetime.cancel (.failure (.interrupted unexpectedEnd))
  else served.state.lifetime

/-- Where a start goes well, the reason is none exactly if serving left the lifetime gracefully
ended. -/
theorem reason_lifetimeAfter_iff {served : Outcome (Serving σ) Unit}
    (established : served.state.ready || (lifetimeAfter served).isOver) :
    (lifetimeAfter served).reason = .graceful ↔
      served.state.lifetime = .endedFor (some .graceful) := by
  cases ready : served.state.ready with
  | true =>
    rw [lifetimeAfter, if_pos ready]
    cases served.result with
    | error f => exact Lifetime.reason_cancel_failure_iff f served.state.lifetime
    | ok u => exact Lifetime.reason_cancel_failure_iff _ served.state.lifetime
  | false =>
    have untouched : lifetimeAfter served = served.state.lifetime := by simp [lifetimeAfter, ready]
    rw [ready, Bool.false_or, untouched] at established
    rw [untouched]
    exact Lifetime.reason_eq_graceful_iff established

/-- Where a start fails, serving left a lifetime that nobody has ended. -/
theorem lifetime_of_not_established {served : Outcome (Serving σ) Unit}
    (failed : ¬ (served.state.ready || (lifetimeAfter served).isOver)) :
    served.state.lifetime ≠ .endedFor (some .graceful) := by
  intro ended
  rw [lifetimeAfter, ended] at failed
  cases ready : served.state.ready <;> simp [ready] at failed

/-- The background task never fails, and what it leaves behind is the lifetime. -/
theorem background_ends (s : Serving σ) :
    ∃ ending, (background w handler script s).result = .ok ending ∧
      (background w handler script s).state.ready = (Serving.serve w handler script s).state.ready ∧
      (background w handler script s).state.lifetime =
        lifetimeAfter (Serving.serve w handler script s) := by
  rw [background, Action.bind_eq, Action.result_attempt_bind, Action.state_attempt_bind,
    lifetimeAfter]
  generalize Serving.serve w handler script s = served
  cases served.result with
  | error f =>
    refine ⟨some f, ?_⟩
    cases ready : served.state.ready <;>
      simp [failure?, wrapUp, Action.bind, Action.tell, ready, Serving.cancel]
  | ok u =>
    refine ⟨none, ?_⟩
    cases ready : served.state.ready
    · simp [failure?, wrapUp, Action.bind, ready]
    · cases past : served.state.lifetime.isOver
      · simp [failure?, wrapUp, Action.bind, Action.tell, ready, past, Serving.cancel]
      · simp [failure?, wrapUp, Action.bind, ready, past, Lifetime.cancel_of_isOver past]

theorem judge_apply (ending : Option Failure) (s : Serving σ) :
    judge w ending s =
      ⟨if s.ready || s.lifetime.isOver then .ok () else .error (registrationFailure w ending),
        [], s⟩ := by
  rw [judge, Action.bind_eq, Action.bind_apply_of_ok rfl, Action.state_apply]
  cases s.ready || s.lifetime.isOver <;> rfl

/-- A first start is judged by the flags that the background task leaves behind. -/
theorem start_apply {s : Subscription σ} {ending : Option Failure} (unbegun : s.begun = false)
    (ended : (background w handler script s.serving).result = .ok ending) :
    start w handler script s =
      let left := background w handler script s.serving
      ⟨if left.state.ready || left.state.lifetime.isOver then .ok ()
        else .error (registrationFailure w ending), left.chronicle, ⟨true, left.state⟩⟩ := by
  obtain ⟨begun, serving⟩ := s
  obtain rfl : begun = false := unbegun
  have course : start w handler script ⟨false, serving⟩ =
      let o := (background w handler script).bind (judge w) serving
      ⟨o.result, o.chronicle, ⟨true, o.state⟩⟩ := rfl
  rw [course, Action.bind_apply_of_ok ended, judge_apply]
  simp only [List.append_nil]

/-- A start fails exactly if the watch was not established and the lifetime not ended. -/
theorem start_fresh (world : σ) {served : Outcome (Serving σ) Unit}
    (serves : Serving.serve w handler script (fresh world).serving = served) :
    (start w handler script (fresh world)).state.begun = true ∧
      (start w handler script (fresh world)).state.serving.lifetime = lifetimeAfter served ∧
      if served.state.ready || (lifetimeAfter served).isOver then
        (start w handler script (fresh world)).result = .ok ()
      else ∃ ending,
        (start w handler script (fresh world)).result = .error (registrationFailure w ending) := by
  obtain ⟨ending, ended, ready, lifetime⟩ := background_ends w handler script (fresh world).serving
  rw [serves] at ready lifetime
  rw [start_apply w handler script rfl ended]
  simp only [ready, lifetime]
  split
  · exact ⟨trivial, trivial, rfl⟩
  · exact ⟨trivial, trivial, ending, rfl⟩

end Subscription

/-! ## The operator -/

namespace Operator

open Subscription

variable {σ : Type} {start start' : Action (Subscription σ) Unit} {before : Subscription σ}

/-- The operator ends as the start of its subscription does, and returns why the lifetime ended. -/
theorem runBy_apply (start : Action (Subscription σ) Unit) (before : Subscription σ) :
    (runBy start before).result =
        (start before).result.map (fun _ => (start before).state.serving.lifetime.reason) ∧
      (runBy start before).state = (start before).state := by
  rw [runBy, Action.bind_eq, Action.bind_apply_of_ok rfl, Action.bind_eq,
    Action.result_attempt_bind, Action.state_attempt_bind]
  simp only [Action.tell, Action.emit_apply]
  cases (start before).result with
  | error f => cases f <;> exact ⟨rfl, rfl⟩
  | ok u => exact ⟨rfl, rfl⟩

/-- All that the operator knows of a start is what it comes to. -/
theorem runBy_congr (same : start before = start' before) :
    runBy start before = runBy start' before := by
  have announced (p : Action (Subscription σ) Reason) (r : Record) :
      (Action.tell r).bind (fun _ => p) before =
        ⟨(p before).result, .told r :: (p before).chronicle, (p before).state⟩ := rfl
  simp only [runBy, Action.bind_eq, announced]
  rw [Action.attempt_bind_congr same]

end Operator

end GroupOperator
