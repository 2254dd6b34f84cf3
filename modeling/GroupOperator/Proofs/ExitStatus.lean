import GroupOperator.Proofs.Launch
import GroupOperator.Proofs.Overtaking
import GroupOperator.Proofs.Reception

/-!
# The exit status

Serving goes through what happens up to the first happening that it fails at.  The first end of the
lifetime on the way there is the one that counts (`firstEnd?`): later ends change nothing, and
neither does a failure that comes when the lifetime is over already.  So the exit status says
whether that end came first and was graceful.

It says so unless the starter of the subscription is overtaken.  A launch in which that happens is
taken for one whose watch could not be registered, and comes to one however its lifetime ended
(`Startup.exit_status_iff`).
-/

namespace GroupOperator

/-! ## What decides -/

/-- The reason for which a happening ends the lifetime, if it does. -/
def Happening.ends? : Happening → Option Reason
  | .wait reason | .cancel reason => some reason
  | .signal _ => some .graceful
  | _ => none

/-- Serving fails at a happening: following the notifications does, or one arrives that cannot be
kept. -/
def Happening.Fails : Happening → Prop
  | .failed _ => True
  | .notification _ object => ¬ Watching.IsKeyed object
  | _ => False

instance (h : Happening) : Decidable h.Fails :=
  match h with
  | .failed _ => inferInstanceAs (Decidable True)
  | .notification _ object => inferInstanceAs (Decidable (¬ Watching.IsKeyed object))
  | .startup | .login _ | .ready | .tick | .wait _ | .cancel _ | .signal _ =>
    inferInstanceAs (Decidable False)

/-- The first reason for which a script ends the lifetime, before serving fails. -/
def firstEnd? : List Happening → Option Reason
  | [] => none
  | h :: rest => if h.Fails then none else h.ends?.or (firstEnd? rest)

/-- A script is decided if serving fails in it or the lifetime ends. -/
def IsDecided (script : List Happening) : Prop :=
  ∃ h ∈ script, h.Fails ∨ h.ends? ≠ none

/-- What ends the lifetime is not what serving fails at. -/
theorem Happening.not_fails_of_ends {h : Happening} {r : Reason} (ends : h.ends? = some r) :
    ¬ h.Fails := by
  cases h with
  | wait _ | cancel _ | signal _ => exact id
  | _ => cases ends

theorem firstEnd?_eq_some_iff {script : List Happening} {r : Reason} :
    firstEnd? script = some r ↔
      ∃ before h after, script = before ++ h :: after ∧ h.ends? = some r ∧
        ∀ b ∈ before, b.ends? = none ∧ ¬ b.Fails := by
  induction script with
  | nil => simp [firstEnd?]
  | cons h rest ih =>
    rw [firstEnd?]
    constructor
    · intro first
      split at first
      · cases first
      · rename_i sound
        cases ends : h.ends? with
        | some own =>
          rw [ends] at first
          obtain rfl := Option.some.inj first
          exact ⟨[], h, rest, rfl, ends, nofun⟩
        | none =>
          rw [ends] at first
          obtain ⟨before, e, after, rfl, hends, quiet⟩ := ih.mp first
          exact ⟨h :: before, e, after, rfl, hends,
            List.forall_mem_cons.mpr ⟨⟨ends, sound⟩, quiet⟩⟩
    · rintro ⟨before, e, after, split, hends, quiet⟩
      cases before with
      | nil =>
        obtain ⟨rfl, rfl⟩ := List.cons.inj split
        rw [if_neg (Happening.not_fails_of_ends hends), hends, Option.some_or]
      | cons b before =>
        obtain ⟨rfl, rfl⟩ := List.cons.inj split
        obtain ⟨⟨silent, sound⟩, quiet⟩ := List.forall_mem_cons.mp quiet
        rw [if_neg sound, silent, Option.none_or]
        exact ih.mpr ⟨before, e, after, rfl, hends, quiet⟩

/-- Once a script is decided, nothing that comes later counts. -/
theorem firstEnd?_append {script : List Happening} (decided : IsDecided script)
    (later : List Happening) : firstEnd? (script ++ later) = firstEnd? script := by
  induction script with
  | nil =>
    obtain ⟨h, mem, -⟩ := decided
    cases mem
  | cons h rest ih =>
    rw [List.cons_append, firstEnd?, firstEnd?]
    split
    · rfl
    · rename_i sound
      cases ends : h.ends? with
      | some r => rfl
      | none =>
        obtain ⟨d, mem, decides⟩ := decided
        rcases List.mem_cons.mp mem with rfl | mem
        · rcases decides with fails | other
          · exact absurd fails sound
          · exact absurd ends other
        · rw [ih ⟨d, mem, decides⟩]

/-! ## What serving makes of it -/

/-- A notification that cannot be kept makes the delivery fail, and nothing else comes of it. -/
theorem Watching.deliver_of_not_isKeyed {σ : Type} (handler : Handler σ) {body : Value}
    (unkeyed : ¬ IsKeyed body) (type : Value) (w : Watching σ) :
    ∃ f, (deliver handler type body w).result = .error f := by
  rw [deliver_apply, Store.receive]
  cases hb : ServiceGroup.ofBody? body with
  | error r =>
    refine absurd (fun g hg => ?_) unkeyed
    cases hb.symm.trans hg
  | ok g =>
    cases hu : (Key.ofGroup g).unusable? with
    | none =>
      refine absurd (fun g' hg => ?_) unkeyed
      obtain rfl := Except.ok.inj (hb.symm.trans hg)
      exact hu
    | some part =>
      refine ⟨keyFailure part, ?_⟩
      simp only [hu]
      rfl

namespace Serving

variable {σ : Type} {handler : Handler σ} (w : Watch) (s : Serving σ)

/-- Serving goes on after anything that it does not fail at, and the lifetime is over if that ends
it. -/
theorem react_of_not_fails (fine : ∀ e s, (handler e s).result = .ok ()) {h : Happening}
    (sound : ¬ h.Fails) :
    (react w handler h s).result = .ok () ∧
      (react w handler h s).state.lifetime = h.ends?.elim s.lifetime s.lifetime.cancel := by
  cases h with
  | failed f => exact absurd trivial sound
  | tick =>
    obtain ⟨went, lifetime, -⟩ := tick_apply w handler s
    exact ⟨went, lifetime⟩
  | notification type object =>
    have keyed : Watching.IsKeyed object := Decidable.not_not.mp sound
    exact ⟨Watching.result_deliver fine keyed type s.watching, rfl⟩
  | startup | login _ | ready | wait _ | cancel _ | signal _ => exact ⟨rfl, rfl⟩

/-- Where serving fails, the lifetime stays as it is. -/
theorem react_of_fails {h : Happening} (fails : h.Fails) :
    ∃ f, (react w handler h s).result = .error f ∧
      (react w handler h s).state.lifetime = s.lifetime := by
  cases h with
  | failed f => exact ⟨f, rfl, rfl⟩
  | notification type object =>
    obtain ⟨f, failed⟩ := Watching.deliver_of_not_isKeyed handler fails type s.watching
    exact ⟨f, failed, rfl⟩
  | startup | login _ | ready | tick | wait _ | cancel _ | signal _ => exact fails.elim

/-- Going through a script leaves the lifetime that was first ended on the way. -/
theorem lifetime_forEach (fine : ∀ e s, (handler e s).result = .ok ()) (script : List Happening)
    {first : Option Reason} {s : Serving σ} (lifetime : s.lifetime = .endedFor first) :
    (Action.forEach (react w handler) script s).state.lifetime =
      .endedFor (first.or (firstEnd? script)) := by
  -- The induction carries the end that came first so far, which no later one replaces.
  induction script generalizing s first with
  | nil =>
    rw [firstEnd?, Option.or_none]
    exact lifetime
  | cons h rest ih =>
    rw [firstEnd?]
    by_cases fails : h.Fails
    · obtain ⟨f, failed, kept⟩ : ∃ f, (react w handler h s).result = .error f ∧
          (react w handler h s).state.lifetime = s.lifetime := react_of_fails w s fails
      rw [if_pos fails, Option.or_none, Action.forEach_cons_of_error failed, kept, lifetime]
    · obtain ⟨went, after⟩ := react_of_not_fails w s fine fails
      rw [if_neg fails, Action.forEach_cons_of_ok went, ← Option.or_assoc]
      refine ih (after.trans ?_)
      rw [lifetime]
      cases h.ends? with
      | none => exact congrArg Lifetime.endedFor (Option.or_none).symm
      | some r => cases first <;> rfl

/-- However serving ends, what it leaves behind is what the script leaves behind. -/
theorem state_serve {redelivers : Bool} (paced : w.redelivers? = .ok redelivers)
    (script : List Happening) :
    (serve w handler script s).state = (Action.forEach (react w handler) script
      { s with pacer := if redelivers then .pausing else s.pacer }).state := by
  -- A failure of the pacing task replaces the result, and only the result.
  rw [serve_apply_of_ok paced]

/-- Serving leaves the lifetime that was first ended in the script, or one that nobody has ended. -/
theorem lifetime_serve (fine : ∀ e s, (handler e s).result = .ok ()) (script : List Happening)
    {redelivers : Bool} (paced : w.redelivers? = .ok redelivers) {s : Serving σ}
    (lifetime : s.lifetime = {}) :
    (serve w handler script s).state.lifetime = .endedFor (firstEnd? script) := by
  have untouched : ({ s with pacer := if redelivers then .pausing else s.pacer } :
      Serving σ).lifetime = .endedFor none := lifetime
  rw [state_serve w s paced script, lifetime_forEach w fine script untouched, Option.none_or]

end Serving

/-! ## The exit status -/

/-- Why a lifetime ended can be told from it. -/
theorem Lifetime.endedFor_inj {a b : Option Reason} : endedFor a = endedFor b ↔ a = b := by
  cases a <;> cases b <;> simp [endedFor]

namespace Operator

variable {σ : Type}

/-- A watch with accepted settings redelivers or does not. -/
theorem redelivers?_of_accepted {s : Settings} (accepted : misconfiguration? true s = none) :
    ∃ redelivers, (watchOf s).redelivers? = .ok redelivers := by
  obtain ⟨⟨period, counted, -⟩, -⟩ := misconfiguration?_eq_none_iff.mp accepted
  refine ⟨period.isPositive, ?_⟩
  rw [Watch.redelivers?, watchOf, counted]

theorem begun_runInTurns (s : Settings) (answer : Answering σ) (script : List Happening)
    (turns : List Turn) (world : σ) :
    (runInTurns s answer script turns (.fresh world)).state.begun = true := by
  rw [runInTurns, (runBy_apply _ _).2, Subscription.startInTurns_apply rfl]

end Operator

namespace Startup

open CommandLine

variable {σ : Type}

/-- The status of a launch that reaches the operator says whether the first end is a graceful
one. -/
theorem result_of_begun {env : Environment} {argv : List String} {places : Credentials.Places}
    {answer : Answering σ} {script : List Happening} {world : σ}
    (begun : (launch env argv places answer script world).state.begun = true)
    (happens : List Happening) :
    (launch env argv places answer happens world).result =
      .ok (.status (if firstEnd? happens = some .graceful then 0 else 1)) := by
  rcases launch_cases env argv places with
    ⟨exit, printed⟩ | refused | ⟨f, crash⟩ | ⟨s, accepted, ended⟩
  · cases begun.symm.trans (printed answer script world).2
  · cases begun.symm.trans (refused answer script world).2
  · cases begun.symm.trans (congrArg Subscription.begun
      (program_of_crash crash answer script (.fresh world)).2)
  · obtain ⟨redelivers, paced⟩ := Operator.redelivers?_of_accepted accepted
    have fine (e : Event) (t : σ) : (Operator.handler s answer e t).result = .ok () :=
      Reconciler.result_handle answer s.workloadNamespace t e
    rw [(ended answer happens world).2, Serving.lifetime_serve _ fine happens paced rfl]
    simp only [Lifetime.endedFor_inj]

/-! ## Taking turns -/

/-- The starter of the subscription is overtaken if the sides take their turns as given. -/
def IsOvertaken (env : Environment) (argv : List String) (answer : Answering σ)
    (script : List Happening) (turns : List Turn) (world : σ) : Prop :=
  ∃ s, parse (.ofEnvironment env) argv = .ok s ∧
    Subscription.IsOvertaken (Operator.watchOf s) (Operator.handler s answer) script turns
      (.fresh world)

section

variable {env : Environment} {argv : List String} {places : Credentials.Places}
  {answer : Answering σ} {script : List Happening} {turns : List Turn} {world : σ}

/-- A launch whose starter is not overtaken is like one that looks when all is over. -/
theorem launchInTurns_of_not_overtaken (inTime : ¬ IsOvertaken env argv answer script turns world) :
    launchInTurns env argv places answer script turns world =
      launch env argv places answer script world := by
  rw [launchInTurns, programInTurns, launch, program]
  cases parsed : parse (.ofEnvironment env) argv with
  | error exit => rw [programBy_of_exit _ _ parsed, programBy_of_exit _ _ parsed]
  | ok s =>
    cases ranked : rankOf s.logLevel with
    | error f =>
      rw [programBy_of_unranked _ _ parsed ranked, programBy_of_unranked _ _ parsed ranked]
    | ok rank =>
      have started := Subscription.startInTurns_of_not_overtaken world
        fun overtaken => inTime ⟨s, parsed, overtaken⟩
      have same : operateInTurns s places answer script turns (.fresh world) =
          operate s places answer script (.fresh world) :=
        operateBy_congr (Operator.runBy_congr started)
      rw [programBy_of_ranked _ _ parsed ranked, programBy_of_ranked _ _ parsed ranked, telling,
        telling]
      simp only [same]

/-- Whether a launch reaches the operator depends neither on what happens nor on whose turn it
is. -/
theorem begun_launchInTurns
    (begun : (launchInTurns env argv places answer script turns world).state.begun = true)
    (script' : List Happening) (turns' : List Turn) :
    (launchInTurns env argv places answer script' turns' world).state.begun = true := by
  cases parsed : parse (.ofEnvironment env) argv with
  | error exit =>
    rw [launchInTurns, programInTurns, programBy_of_exit _ _ parsed] at begun
    cases begun
  | ok s =>
    exact (begun_programBy_iff parsed places (Operator.begun_runInTurns ..)).mpr
      ((begun_programBy_iff parsed places (Operator.begun_runInTurns ..)).mp begun)

/-- A launch whose starter is overtaken comes to one. -/
theorem result_of_overtaken
    (begun : (launchInTurns env argv places answer script turns world).state.begun = true)
    (overtaken : IsOvertaken env argv answer script turns world) :
    (launchInTurns env argv places answer script turns world).result = .ok (.status 1) := by
  obtain ⟨s, parsed, overtaken⟩ := overtaken
  obtain ⟨-, ending, failed⟩ := Subscription.startInTurns_of_overtaken world overtaken
  have ended := (Operator.runBy_apply (Subscription.startInTurns (Operator.watchOf s)
    (Operator.handler s answer) script turns) (.fresh world)).1
  rw [failed] at ended
  obtain ⟨⟨rank, ranked⟩, prepared⟩ :=
    (begun_programBy_iff parsed places (Operator.begun_runInTurns ..)).mp begun
  rw [launchInTurns, programInTurns, programBy_of_ranked _ _ parsed ranked]
  exact result_operateBy_of_error prepared ended

/-- A starter that comes late is not overtaken. -/
theorem not_isOvertaken_of_late (still : .starter ∉ turns) :
    ¬ IsOvertaken env argv answer script turns world := by
  rintro ⟨s, -, overtaken⟩
  exact Subscription.not_isOvertaken_of_late still _ overtaken

end

/-- **The exit status.**  Where a launch reaches the operator, it returns zero or one, and zero
exactly if the lifetime is ended gracefully before anything else ends it and before serving fails,
and the starter is not overtaken.  A script that does not end the lifetime, or that serving fails in
first, comes to one.  Once a script has ended the lifetime or made serving fail, nothing that
happens later changes the status, unless the starter is overtaken then. -/
theorem exit_status_iff (env : Environment) (argv : List String) (places : Credentials.Places)
    (answer : Answering σ) (script : List Happening) (turns : List Turn) (world : σ)
    (begun : (launchInTurns env argv places answer script turns world).state.begun = true) :
    ((launchInTurns env argv places answer script turns world).result = .ok (.status 0) ∨
      (launchInTurns env argv places answer script turns world).result = .ok (.status 1)) ∧
    ((launchInTurns env argv places answer script turns world).result = .ok (.status 0) ↔
      (∃ before h after, script = before ++ h :: after ∧ h.ends? = some .graceful ∧
        ∀ b ∈ before, b.ends? = none ∧ ¬ b.Fails) ∧
      ¬ IsOvertaken env argv answer script turns world) ∧
    (IsDecided script → ¬ IsOvertaken env argv answer script turns world → ∀ later turns',
      (IsOvertaken env argv answer (script ++ later) turns' world →
        (launchInTurns env argv places answer (script ++ later) turns' world).result =
          .ok (.status 1)) ∧
      (¬ IsOvertaken env argv answer (script ++ later) turns' world →
        (launchInTurns env argv places answer (script ++ later) turns' world).result =
          (launchInTurns env argv places answer script turns world).result)) := by
  rw [← firstEnd?_eq_some_iff]
  by_cases overtaken : IsOvertaken env argv answer script turns world
  · rw [result_of_overtaken begun overtaken]
    refine ⟨.inr rfl, iff_of_false nofun fun h => h.2 overtaken, ?_⟩
    intro _ inTime
    exact absurd overtaken inTime
  · have reached := begun_launchInTurns begun
    rw [launchInTurns_of_not_overtaken overtaken] at begun ⊢
    rw [result_of_begun begun script]
    refine ⟨?_, ?_, ?_⟩
    · split
      · exact .inl rfl
      · exact .inr rfl
    · split
      · rename_i graceful
        exact iff_of_true rfl ⟨graceful, overtaken⟩
      · rename_i other
        exact iff_of_false nofun fun h => other h.1
    · intro decided _ later turns'
      refine ⟨result_of_overtaken (reached _ _), ?_⟩
      intro inTime
      rw [launchInTurns_of_not_overtaken inTime, result_of_begun begun, firstEnd?_append decided]

/-- The operator serves, is told to end and ends. -/
def orderly : List Happening :=
  [.startup, .ready,
    .notification .null (ServiceGroup.sampleBody (.str "default") (.str "web") (.int 1)), .tick,
    .signal "SIGTERM"]

/-- The operator is told to end before its watch is established. -/
def hasty : List Happening :=
  [.startup, .signal "SIGTERM"]

/-- A failure and an end that is not graceful. -/
def trouble : List Happening :=
  [.failed (.transport "reset"), .cancel (.failure (.system "denied"))]

/-- The starter looks at both flags at once, and then not before the task is over. -/
theorem hasty_isOvertaken :
    IsOvertaken [] ["--resync-period", "5"] Cluster.answer hasty [.starter, .starter] .empty := by
  refine ⟨_, rfl, [.starter], [.cancel .graceful, .endServing none], [.task, .task],
    [.starter, .starter, .starter], none, rfl, ⟨rfl, rfl, by decide⟩, ⟨rfl, rfl⟩, rfl⟩

/-- Trouble that comes after an orderly end does not change the status, and an orderly end that
comes after trouble does not either.  But the same orderly end comes to zero or to one as the sides
take their turns. -/
theorem orderly_before_trouble :
    (launchInTurns [] ["--resync-period", "5"] {} Cluster.answer orderly [] .empty).state.begun =
        true ∧
      (launchInTurns [] ["--resync-period", "5"] {} Cluster.answer orderly [] .empty).result =
        .ok (.status 0) ∧
      (launchInTurns [] ["--resync-period", "5"] {} Cluster.answer (orderly ++ trouble) [.task]
        .empty).result = .ok (.status 0) ∧
      (launchInTurns [] ["--resync-period", "5"] {} Cluster.answer trouble [] .empty).state.begun =
        true ∧
      (launchInTurns [] ["--resync-period", "5"] {} Cluster.answer (trouble ++ orderly) [.task]
        .empty).result = .ok (.status 1) ∧
      (launchInTurns [] ["--resync-period", "5"] {} Cluster.answer hasty [] .empty).result =
        .ok (.status 0) ∧
      (launchInTurns [] ["--resync-period", "5"] {} Cluster.answer hasty [.starter, .starter]
        .empty).result = .ok (.status 1) := by
  have begun : (launchInTurns [] ["--resync-period", "5"] {} Cluster.answer orderly []
      .empty).state.begun = true := by decide
  have begun' : (launchInTurns [] ["--resync-period", "5"] {} Cluster.answer trouble []
      .empty).state.begun = true := by decide
  have late (script : List Happening) (turns : List Turn) (still : .starter ∉ turns) :
      ¬ IsOvertaken [] ["--resync-period", "5"] Cluster.answer script turns .empty :=
    not_isOvertaken_of_late still
  obtain ⟨-, zero, stays⟩ := exit_status_iff _ _ _ _ _ _ _ begun
  obtain ⟨one, other, stays'⟩ := exit_status_iff _ _ _ _ _ _ _ begun'
  have quiet : ∀ b ∈ orderly.take 4, b.ends? = none ∧ ¬ b.Fails := by decide
  have ended := zero.mpr ⟨⟨orderly.take 4, .signal "SIGTERM", [], rfl, rfl, quiet⟩, late _ _ nofun⟩
  have decided : IsDecided orderly := ⟨.signal "SIGTERM", by decide, .inr nofun⟩
  have decided' : IsDecided trouble := ⟨.failed (.transport "reset"), by decide, .inl trivial⟩
  have failed : firstEnd? trouble ≠ some .graceful := by decide
  have stillZero := (stays decided (late _ _ nofun) trouble [.task]).2 (late _ _ (by decide))
  have stillOne := (stays' decided' (late _ _ nofun) orderly [.task]).2 (late _ _ (by decide))
  have first : (launchInTurns [] ["--resync-period", "5"] {} Cluster.answer trouble []
      .empty).result = .ok (.status 1) := by
    rcases one with zero | one
    · exact absurd (firstEnd?_eq_some_iff.mpr (other.mp zero).1) failed
    · exact one
  obtain ⟨-, told, -⟩ := exit_status_iff [] ["--resync-period", "5"] {} Cluster.answer hasty []
    .empty (by decide)
  obtain ⟨either, blamed, -⟩ := exit_status_iff [] ["--resync-period", "5"] {} Cluster.answer hasty
    [.starter, .starter] .empty (by decide)
  have quiet' : ∀ b ∈ hasty.take 1, b.ends? = none ∧ ¬ b.Fails := by decide
  refine ⟨begun, ended, stillZero.trans ended, begun', stillOne.trans first,
    told.mpr ⟨⟨hasty.take 1, .signal "SIGTERM", [], rfl, rfl, quiet'⟩, late _ _ nofun⟩, ?_⟩
  rcases either with zero | one
  · exact absurd hasty_isOvertaken (blamed.mp zero).2
  · exact one

end Startup

end GroupOperator
