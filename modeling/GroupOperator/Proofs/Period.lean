import GroupOperator.Proofs.Items
import GroupOperator.Proofs.Launch
import GroupOperator.Proofs.Pacing

/-!
# The period in force

A period is compared with zero twice.  The operator refuses settings whose period is below zero, and
the watch has a pacing task if the period is above zero; a period of zero is meant to be the only
one that is accepted and has no task.  The two comparisons leave one gap: what is not a number is
neither below nor above.

* With accepted settings, the task exists and pauses for the period, unless that is zero or not a
  number (`Operator.pauses_run_eq_nil_iff`).
* A launch reaches the operator exactly if the level has a rank, there are credentials and the
  settings are accepted (`Startup.begun_iff`).  Of the periods that are neither zero nor above, not
  a number is the only one that can be in force then.
-/

namespace GroupOperator

/-! ## Comparing with zero -/

namespace Binary64

variable {x : Binary64}

/-- A number that is not below zero is zero or above, unless it is no number. -/
theorem isZero_or_isPositive_iff (least : x.isNegative = false) :
    x.isZero = true ∨ x.isPositive = true ↔ x ≠ .nan := by
  constructor
  · rintro signed rfl
    rcases signed with zero | positive
    · cases zero
    · cases positive
  · intro number
    rcases x.eq_nan_or_signed with nan | negative | zero | positive
    · exact absurd nan number
    · rw [least] at negative
      cases negative
    · exact .inl zero
    · exact .inr positive

/-- What is neither zero nor above is not below zero only if it is no number. -/
theorem isNegative_eq_false_iff (unfit : ¬ (x.isZero = true ∨ x.isPositive = true)) :
    x.isNegative = false ↔ x = .nan := by
  constructor
  · intro least
    exact Decidable.byContradiction fun number =>
      unfit ((isZero_or_isPositive_iff least).mpr number)
  · rintro rfl
    rfl

/-- What is zero is not above zero. -/
theorem isPositive_of_isZero (zero : x.isZero = true) : x.isPositive = false := by
  cases x with
  | nan | infinite _ => cases zero
  | finite negative m e =>
    have nothing : m = 0 := by simpa [isZero] using zero
    simp [isPositive, nothing]

/-- A number that is not below zero is not above it either if it is zero or no number. -/
theorem isPositive_eq_false_iff (least : x.isNegative = false) :
    x.isPositive = false ↔ x.isZero = true ∨ x = .nan := by
  constructor
  · intro low
    by_cases nan : x = .nan
    · exact .inr nan
    · rcases (isZero_or_isPositive_iff least).mpr nan with zero | positive
      · exact .inl zero
      · rw [low] at positive
        cases positive
  · rintro (zero | rfl)
    · exact isPositive_of_isZero zero
    · rfl

end Binary64

/-! ## The pauses of a run -/

/-- What follows a part that is only tried adds nothing to its pauses if it begins none itself. -/
theorem Action.pauses_attempt_bind {σ α β : Type} {p : Action σ α}
    {k : Except Failure α → Action σ β} (restless : ∀ r t, (k r t).chronicle.pauses = []) (s : σ) :
    (p.attempt.bind k s).chronicle.pauses = (p s).chronicle.pauses := by
  have course : (p.attempt.bind k s).chronicle =
    (p s).chronicle ++ (k (p s).result (p s).state).chronicle := rfl
  rw [course, Chronicle.pauses_append, restless, List.append_nil]

namespace Subscription

variable {σ : Type} (w : Watch) (handler : Handler σ) (script : List Happening)

/-- What the background task does beside serving begins no pauses. -/
theorem pauses_background (s : Serving σ) :
    (background w handler script s).chronicle.pauses =
      (Serving.serve w handler script s).chronicle.pauses := by
  rw [background, Action.bind_eq]
  refine Action.pauses_attempt_bind (fun ending t => ?_) s
  obtain ⟨watching, ⟨flag, reason⟩, ready, pacer, waited⟩ := t
  cases ending with
  | error f => cases ready <;> rfl
  | ok u => cases ready <;> cases flag <;> rfl

/-- A subscription begins the pauses of serving. -/
theorem pauses_start_fresh (world : σ) :
    (start w handler script (fresh world)).chronicle.pauses =
      (Serving.serve w handler script (fresh world).serving).chronicle.pauses := by
  -- a start that is judged to have failed says so in its result only
  obtain ⟨ending, ended, -, -⟩ := background_ends w handler script (fresh world).serving
  rw [start_apply w handler script rfl ended]
  exact pauses_background w handler script (fresh world).serving

end Subscription

namespace Operator

variable {σ : Type} (s : Settings) (answer : Answering σ) (script : List Happening)

/-- The operator begins the pauses of serving. -/
theorem pauses_run (world : σ) :
    (run s answer script (.fresh world)).chronicle.pauses =
      (Serving.serve (watchOf s) (handler s answer) script
        (Subscription.fresh world).serving).chronicle.pauses := by
  rw [run, runBy, Action.bind_eq, Action.bind_apply_of_ok rfl, Chronicle.pauses_append,
    ← Subscription.pauses_start_fresh]
  refine Action.pauses_attempt_bind (fun started t => ?_) _
  cases started with
  | error f => cases f <;> rfl
  | ok u => rfl

variable {s}

/-- With accepted settings, the pauses of a run are of the period in force, and there is one at
least if that is above zero, and none if it is not. -/
theorem pauses_run_of_period {x : Binary64} (period : s.resyncPeriod = .float x) (world : σ) :
    ∃ n, (run s answer script (.fresh world)).chronicle.pauses =
      if x.isPositive then List.replicate (1 + n) (.float x) else [] := by
  have judged : (watchOf s).redelivers? = .ok x.isPositive := by
    rw [Watch.redelivers?, watchOf, period]
    rfl
  have describes := Serving.describes_serve (Handler.isDiscreet_ofActivity answer
    (Reconciler.handle s.workloadNamespace)) judged script { outside := world } {}
  have paused := (pauses_run s answer script world).trans describes.pauses
  rw [show (watchOf s).resyncPeriod = .float x from period] at paused
  exact ⟨_, paused⟩

/-- There is none exactly if an accepted period is zero or no number. -/
theorem pauses_run_eq_nil_iff {x : Binary64} (period : s.resyncPeriod = .float x)
    (least : x.isNegative = false) (world : σ) :
    (run s answer script (.fresh world)).chronicle.pauses = [] ↔ x.isZero = true ∨ x = .nan := by
  obtain ⟨n, pauses⟩ := pauses_run_of_period answer script period world
  rw [pauses, ← Binary64.isPositive_eq_false_iff least]
  cases x.isPositive with
  | true => simp
  | false => simp

/-- Settings with a number for a period are accepted if that is not below zero and there is a
namespace to work in. -/
theorem accepted_iff {x : Binary64} (period : s.resyncPeriod = .float x) :
    misconfiguration? true s = none ↔
      x.isNegative = false ∧ s.workloadNamespace.isPresent = true := by
  rw [misconfiguration?_eq_none_iff, period]
  simp only [Value.number?, Option.some.injEq, exists_eq_left']
  rfl

end Operator

/-! ## Getting past the startup -/

namespace Startup

open CommandLine

variable {σ : Type} {env : Environment} {argv : List String} {s : Settings}

/-- Nothing but the period can stand in the way: the level has a rank, there are credentials, and
there is a namespace to work in. -/
structure IsEquipped (places : Credentials.Places) (s : Settings) : Prop where
  /-- The level has a rank. -/
  ranked : ∃ rank, rankOf s.logLevel = .ok rank
  /-- The place that decides has credentials. -/
  found : places.answer (Credentials.decisive places s.kubeconfig) = .ok ()
  /-- There is a namespace to create workloads in. -/
  home : s.workloadNamespace.isPresent = true

/-- How far a launch gets: to the operator if the level has a rank, there are credentials, and the
settings are accepted. -/
theorem begun_iff (parsed : parse (.ofEnvironment env) argv = .ok s) (places : Credentials.Places)
    (answer : Answering σ) (script : List Happening) (world : σ) :
    (launch env argv places answer script world).state.begun = true ↔
      (∃ rank, rankOf s.logLevel = .ok rank) ∧
        places.answer (Credentials.decisive places s.kubeconfig) = .ok () ∧
        Operator.misconfiguration? true s = none := by
  rw [← verdict_eq_ok_iff]
  refine begun_programBy_iff parsed places ?_
  rw [Operator.run, (Operator.runBy_apply _ _).2]
  exact (Subscription.start_fresh _ _ _ world rfl).1

end Startup

/-! ## Texts that give the period -/

namespace CommandLine

/-- The text that gives the period: that of the last item about it, or else that of the
environment. -/
def periodText? (env : Environment) (items : List Item) : Option String :=
  match Item.last? .resyncPeriod items with
  | some i => some i.value
  | none => env.get? .resyncPeriod

/-- A numeral that gives the period puts its number in force. -/
theorem period_of_items {env : Environment} {items : List Item} {text : String} {x : Binary64}
    (good : ∀ i ∈ items, i.meaning? ≠ none) (given : periodText? env items = some text)
    (number : Numeral.decimal? text = some x) :
    ∃ s, parse (.ofEnvironment env) (items.flatMap Item.arguments) = .ok s ∧
      s.resyncPeriod = .float x := by
  refine ⟨_, parse_of_good good env, ?_⟩
  change ((items.foldl Item.give {}).value? .resyncPeriod).getD (fallback env .resyncPeriod) = _
  rw [value?_give good {} .resyncPeriod]
  rw [periodText?] at given
  cases last : Item.last? .resyncPeriod items with
  | some i =>
    rw [last] at given
    have own : i.setting = .resyncPeriod :=
      of_decide_eq_true (List.mem_filter.mp (List.mem_of_getLast? last)).2
    obtain rfl := Option.some.inj given
    simp only [Item.meaning?, own, number, Option.map_some, Option.getD_some]
  | none =>
    rw [last] at given
    simp only [fallback, Settings.ofEnvironment, Settings.value, Settings.periodOf,
      show env.get? .resyncPeriod = some text from given, Option.bind_some, number,
      Option.getD_some]
    rfl

end CommandLine

namespace Startup

open CommandLine

/-- **The period in force.**  Where the command line gives settings that the operator accepts, the
period is of the double format, and zero or above unless it is not a number.  The pauses of a run
are of that period, and there are none exactly if it is zero or not a number.  A period that is
neither zero nor above gets past the startup exactly if it is not a number and nothing else stands
in the way.  Every numeral that the last item about the period gives, or else the environment, is
put in force. -/
theorem period_in_force_iff (env : Environment) :
    (∀ argv s, parse (.ofEnvironment env) argv = .ok s →
      Operator.misconfiguration? true s = none →
      ∃ x, s.resyncPeriod = .float x ∧
        (x.isZero = true ∨ x.isPositive = true ↔ x ≠ .nan) ∧
        ∀ {σ : Type} (answer : Answering σ) (script : List Happening) (world : σ),
          (∀ p ∈ (Operator.run s answer script (.fresh world)).chronicle.pauses, p = .float x) ∧
          ((Operator.run s answer script (.fresh world)).chronicle.pauses = [] ↔
            x.isZero = true ∨ x = .nan)) ∧
    (∀ argv s x, parse (.ofEnvironment env) argv = .ok s → s.resyncPeriod = .float x →
      ¬ (x.isZero = true ∨ x.isPositive = true) →
      ∀ {σ : Type} (places : Credentials.Places) (answer : Answering σ) (script : List Happening)
        (world : σ), (launch env argv places answer script world).state.begun = true ↔
          x = .nan ∧ IsEquipped places s) ∧
    ∀ items text x, (∀ i ∈ items, i.meaning? ≠ none) → periodText? env items = some text →
      Numeral.decimal? text = some x →
      ∃ s, parse (.ofEnvironment env) (items.flatMap Item.arguments) = .ok s ∧
        s.resyncPeriod = .float x := by
  refine ⟨fun argv s parsed accepted => ?_, fun argv s x parsed period unfit => ?_,
    fun items text x good given number => period_of_items good given number⟩
  · rcases resyncPeriod_of_parse parsed with empty | ⟨x, period⟩
    · -- the empty sequence is no number, so the operator does not accept it
      obtain ⟨⟨n, counted, -⟩, -⟩ := Operator.misconfiguration?_eq_none_iff.mp accepted
      rw [empty] at counted
      cases counted
    · obtain ⟨least, -⟩ := (Operator.accepted_iff period).mp accepted
      refine ⟨x, period, Binary64.isZero_or_isPositive_iff least, fun answer script world =>
        ⟨fun p mem => ?_, Operator.pauses_run_eq_nil_iff answer script period least world⟩⟩
      obtain ⟨n, pauses⟩ := Operator.pauses_run_of_period answer script period world
      rw [pauses] at mem
      split at mem
      · exact List.eq_of_mem_replicate mem
      · cases mem
  · intro σ places answer script world
    rw [begun_iff parsed places answer script world, Operator.accepted_iff period,
      Binary64.isNegative_eq_false_iff unfit]
    constructor
    · rintro ⟨ranked, found, nan, home⟩
      exact ⟨nan, ranked, found, home⟩
    · rintro ⟨nan, equipped⟩
      exact ⟨equipped.ranked, equipped.found, nan, equipped.home⟩

/-- The settings of an environment that says nothing but that the period is not a number. -/
def restlessSettings : Settings :=
  { Settings.ofEnvironment [] with resyncPeriod := .float .nan }

/-- An option that sets the period to minus infinity. -/
def endlessItem : Item :=
  ⟨.resyncPeriod, "--resync", "-inf", true, by decide +kernel, by decide, by decide⟩

/-- A group arrives, and there are two ticks to redeliver it. -/
def ticking : List Happening :=
  [.ready, .notification .null (ServiceGroup.sampleBody (.str "default") (.str "web") (.int 1)),
    .tick, .tick]

/-- What is not a number gets past the startup, and then nothing is redelivered; minus infinity does
not. -/
theorem restlessSettings_accepted :
    parse (.ofEnvironment [("HABITAT_RESYNC_PERIOD", " NaN ")]) [] = .ok restlessSettings ∧
      Operator.misconfiguration? true restlessSettings = none ∧
      (Operator.run restlessSettings Cluster.answer ticking (.fresh .empty)).chronicle.pauses = [] ∧
      (launch [("HABITAT_RESYNC_PERIOD", " NaN ")] [] {} Cluster.answer ticking
        .empty).state.begun = true ∧
      Numeral.decimal? "-inf" = some (.infinite true) ∧
      (launch [] ["--resync=-inf"] {} Cluster.answer ticking .empty).state.begun = false := by
  have parsed : parse (.ofEnvironment [("HABITAT_RESYNC_PERIOD", " NaN ")]) [] =
      .ok restlessSettings := by decide +kernel
  have accepted : Operator.misconfiguration? true restlessSettings = none := by decide +kernel
  have equipped : IsEquipped {} restlessSettings :=
    ⟨⟨20, by decide +kernel⟩, rfl, by decide +kernel⟩
  have number : Numeral.decimal? "-inf" = some (.infinite true) := by decide +kernel
  have good : ∀ i ∈ [endlessItem], i.meaning? ≠ none := by decide +kernel
  obtain ⟨meant, passed, -⟩ := period_in_force_iff [("HABITAT_RESYNC_PERIOD", " NaN ")]
  obtain ⟨-, refused, given⟩ := period_in_force_iff []
  obtain ⟨x, period, -, runs⟩ := meant [] restlessSettings parsed accepted
  obtain rfl : Binary64.nan = x := Value.float.inj period
  obtain ⟨s, read, infinite⟩ := given [endlessItem] "-inf" (.infinite true) good rfl number
  refine ⟨parsed, accepted, (runs Cluster.answer ticking .empty).2.mpr (.inr rfl), ?_, number, ?_⟩
  · exact (passed [] restlessSettings .nan parsed rfl (by decide) {} Cluster.answer ticking
      .empty).mpr ⟨rfl, equipped⟩
  · refine Bool.eq_false_iff.mpr fun begun => ?_
    obtain ⟨nan, -⟩ :=
      (refused _ s (.infinite true) read infinite (by decide) {} Cluster.answer ticking
        .empty).mp begun
    cases nan

end Startup

end GroupOperator
