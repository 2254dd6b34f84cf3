import GroupOperator.Cluster
import GroupOperator.Proofs.Ending
import GroupOperator.Proofs.Provenance
import GroupOperator.Startup

/-!
# How a launch ends

A launch goes wrong in an orderly way if it ends at the command line, or with a record of what is
wrong and status one.  It *crashes* if a failure leaves the program, and that can happen in four
ways only (`Startup.Crash`): with a level of the environment that nobody has checked, with the empty
sequence for a level or for a period, or with a place of credentials that fails in a way nobody
provided for.

Where the operator itself is reached, and its start looks when all is over, the status depends on
nothing but the lifetime that serving leaves behind (`Startup.operate_of_prepared`).
-/

namespace GroupOperator

/-! ## Credentials -/

namespace Credentials

variable {σ : Type} (places : Places) (kubeconfig : Value) (s : σ)

/-- The place whose answer decides. -/
def decisive : CredentialSource :=
  if kubeconfig.isPresent then .file (some kubeconfig)
  else
    match places.cluster with
    | some (.credentials _) => .file none
    | _ => .cluster

theorem ask_apply (source : CredentialSource) (message : String) :
    (ask places source message s).result = places.answer source ∧
      (ask places source message s).state = s := by
  cases answered : places.answer source <;>
    simp [ask, answered, Action.bind, Action.ofExcept, Action.tell]

theorem search_apply :
    (search places kubeconfig s).result = places.answer (decisive places kubeconfig) ∧
      (search places kubeconfig s).state = s := by
  by_cases named : kubeconfig.isPresent = true
  · simp only [search, decisive, if_pos named]
    exact ask_apply ..
  · obtain ⟨asked, kept⟩ := ask_apply places s .cluster "Loaded in-cluster Kubernetes config"
    simp only [search, decisive, if_neg named, Action.bind_eq]
    rw [Action.result_attempt_bind, Action.state_attempt_bind, asked, kept, Places.answer]
    cases outside : places.cluster with
    | none => simp [Places.answer, outside]
    | some f =>
      -- Only where the operator runs in no cluster is there a second place.
      cases f with
      | credentials message => exact ask_apply ..
      | _ => simp [Places.answer, outside]

/-- Loading ends as the deciding place answers, its failure being explained. -/
theorem load_apply :
    (load places kubeconfig s).result =
        (places.answer (decisive places kubeconfig)).mapError explain ∧
      (load places kubeconfig s).state = s := by
  obtain ⟨found, kept⟩ := search_apply places kubeconfig s
  rw [load, Action.bind_eq, Action.result_attempt_bind, Action.state_attempt_bind, found, kept]
  cases places.answer (decisive places kubeconfig) <;> exact ⟨rfl, rfl⟩

end Credentials

/-- Whether a failure was provided for when credentials are loaded: it is a fault of the
configuration, or comes to one. -/
def Failure.isProvidedFor : Failure → Bool
  | .credentials _ | .system _ | .configuration _ => true
  | _ => false

/-- What was provided for is explained as a fault of the configuration. -/
theorem Credentials.explain_of_isProvidedFor {f : Failure} (h : f.isProvidedFor = true) :
    ∃ message, explain f = .configuration message := by
  cases f with
  | credentials message | system message | configuration message => exact ⟨_, rfl⟩
  | _ => cases h

/-- What was not provided for is left as it is, and is no fault of the configuration. -/
theorem Credentials.explain_of_not_isProvidedFor {f : Failure} (h : f.isProvidedFor = false) :
    explain f = f ∧ ∀ message, f ≠ .configuration message := by
  cases f with
  | credentials message | system message | configuration message => cases h
  | _ => exact ⟨rfl, nofun⟩

/-- A misconfiguration is a fault of the configuration, unless the period counts as no number. -/
theorem Operator.of_misconfiguration?_eq_some {s : Settings} {m : Misconfiguration}
    (h : misconfiguration? true s = some m) :
    (∃ message, m.failure = .configuration message) ∨
      s.resyncPeriod.number? = none ∧ m.failure = .incomparable "<" s.resyncPeriod := by
  cases counted : s.resyncPeriod.number? with
  | none =>
    simp only [misconfiguration?, counted, Bool.not_true] at h
    obtain rfl := Option.some.inj h
    exact .inr ⟨rfl, rfl⟩
  | some period =>
    simp only [misconfiguration?, counted, Bool.not_true, Bool.false_eq_true, if_false] at h
    split at h
    · obtain rfl := Option.some.inj h
      exact .inl ⟨_, rfl⟩
    · split at h
      · obtain rfl := Option.some.inj h
        exact .inl ⟨_, rfl⟩
      · cases h

namespace Startup

open Credentials CommandLine

variable {σ : Type} (places : Places) (s : Settings)

/-- What the preparations come to. -/
def verdict : Except Failure Unit :=
  match places.answer (decisive places s.kubeconfig) with
  | .error f => .error (explain f)
  | .ok () =>
    match Operator.misconfiguration? true s with
    | some m => .error m.failure
    | none => .ok ()

theorem prepare_apply (before : Subscription σ) :
    (prepare places s before).result = verdict places s ∧
      (prepare places s before).state = before := by
  obtain ⟨loaded, kept⟩ := load_apply places s.kubeconfig before
  rw [verdict]
  cases answered : places.answer (decisive places s.kubeconfig) with
  | error f =>
    rw [answered] at loaded
    rw [prepare, Action.bind_eq, Action.bind_apply_of_error loaded]
    exact ⟨rfl, kept⟩
  | ok u =>
    rw [answered] at loaded
    rw [prepare, Action.bind_eq, Action.bind_apply_of_ok loaded]
    cases Operator.misconfiguration? true s <;> exact ⟨rfl, kept⟩

variable {places s}

/-- All is prepared if the deciding place has credentials and the settings are accepted. -/
theorem verdict_eq_ok_iff :
    verdict places s = .ok () ↔
      places.answer (decisive places s.kubeconfig) = .ok () ∧
        Operator.misconfiguration? true s = none := by
  cases found : places.answer (decisive places s.kubeconfig) <;>
    cases wrong : Operator.misconfiguration? true s <;> simp [verdict, found, wrong]

/-- Otherwise it is the deciding place that failed, or else the first thing wrong with the
settings. -/
theorem verdict_eq_error_iff {f : Failure} :
    verdict places s = .error f ↔
      (∃ g, places.answer (decisive places s.kubeconfig) = .error g ∧ explain g = f) ∨
        places.answer (decisive places s.kubeconfig) = .ok () ∧
          ∃ m, Operator.misconfiguration? true s = some m ∧ m.failure = f := by
  cases found : places.answer (decisive places s.kubeconfig) <;>
    cases wrong : Operator.misconfiguration? true s <;> simp [verdict, found, wrong]

variable (places s)

/-- What nobody can prepare ends the program with status one if it is a fault of the configuration,
and in a failure if it is not.  The subscription is not touched. -/
theorem operateBy_of_unprepared {f : Failure} (failed : verdict places s = .error f)
    (run : Action (Subscription σ) Reason) (before : Subscription σ) :
    (operateBy s places run before).state = before ∧
      ((∃ message, f = .configuration message) ∧
          (operateBy s places run before).result = .ok (.status 1) ∨
        (∀ message, f ≠ .configuration message) ∧
          (operateBy s places run before).result = .error f) := by
  obtain ⟨prepared, kept⟩ := prepare_apply places s before
  rw [operateBy, Action.bind_eq, Action.result_attempt_bind, Action.state_attempt_bind, prepared,
    failed, kept]
  cases f with
  | configuration message => exact ⟨rfl, .inl ⟨⟨message, rfl⟩, rfl⟩⟩
  | _ => exact ⟨rfl, .inr ⟨nofun, rfl⟩⟩

theorem conclude_apply (reason : Reason) (before : Subscription σ) :
    (conclude reason before).result = .ok (.status (if reason = .graceful then 0 else 1)) ∧
      (conclude reason before).state = before := by
  by_cases graceful : reason = .graceful
  · simp [conclude, graceful]
  · simp [conclude, graceful, Action.bind, Action.tell]

section

variable {places s} {run : Action (Subscription σ) Reason} {before : Subscription σ}

/-- Once all is prepared, the operator runs. -/
theorem state_operateBy (prepared : verdict places s = .ok ()) :
    (operateBy s places run before).state = (run before).state := by
  obtain ⟨checked, kept⟩ := prepare_apply places s before
  rw [operateBy, Action.bind_eq, Action.state_attempt_bind, checked, prepared, kept]
  dsimp only
  rw [Action.bind_eq, Action.state_attempt_bind]
  cases (run before).result with
  | error f => cases f <;> rfl
  | ok reason => exact (conclude_apply reason _).2

/-- The status says whether the lifetime ended gracefully. -/
theorem result_operateBy_of_ok (prepared : verdict places s = .ok ()) {reason : Reason}
    (stopped : (run before).result = .ok reason) :
    (operateBy s places run before).result =
      .ok (.status (if reason = .graceful then 0 else 1)) := by
  obtain ⟨checked, kept⟩ := prepare_apply places s before
  rw [operateBy, Action.bind_eq, Action.result_attempt_bind, checked, prepared, kept]
  dsimp only
  rw [Action.bind_eq, Action.result_attempt_bind, stopped]
  exact (conclude_apply reason _).1

/-- Where the watch could not be registered, it is one. -/
theorem result_operateBy_of_error (prepared : verdict places s = .ok ()) {w : Watch}
    {ending : Option Failure}
    (failed : (run before).result = .error (Subscription.registrationFailure w ending)) :
    (operateBy s places run before).result = .ok (.status 1) := by
  obtain ⟨checked, kept⟩ := prepare_apply places s before
  rw [operateBy, Action.bind_eq, Action.result_attempt_bind, checked, prepared, kept]
  dsimp only
  rw [Action.bind_eq, Action.result_attempt_bind, failed]
  rfl

/-- What the program comes to depends on nothing but what the operator comes to. -/
theorem operateBy_congr {run' : Action (Subscription σ) Reason} (same : run before = run' before) :
    operateBy s places run before = operateBy s places run' before := by
  obtain ⟨-, kept⟩ := prepare_apply places s before
  rw [operateBy, operateBy, Action.bind_eq, Action.bind_eq]
  refine Action.attempt_bind_congr_right ?_
  rw [kept]
  cases (prepare places s before).result with
  | error f => cases f <;> rfl
  | ok u => exact Action.attempt_bind_congr same _

end

/-- The status is zero exactly if serving leaves the lifetime gracefully ended. -/
theorem operate_of_prepared {answer : Answering σ} {script : List Happening} {world : σ}
    {served : Outcome (Serving σ) Unit}
    (prepared : verdict places s = .ok ())
    (serves : Serving.serve (Operator.watchOf s) (Operator.handler s answer) script
      (Subscription.fresh world).serving = served) :
    (operate s places answer script (.fresh world)).state.begun = true ∧
      (operate s places answer script (.fresh world)).result =
        .ok (.status (if served.state.lifetime = .endedFor (some .graceful) then 0 else 1)) := by
  obtain ⟨begun, lifetime, started⟩ := Subscription.start_fresh (Operator.watchOf s)
    (Operator.handler s answer) script world serves
  obtain ⟨ended, same⟩ := Operator.runBy_apply
    (Subscription.start (Operator.watchOf s) (Operator.handler s answer) script) (.fresh world)
  rw [operate, Operator.run, state_operateBy prepared, same]
  refine ⟨begun, ?_⟩
  split at started
  · rename_i established
    rw [started, lifetime] at ended
    rw [result_operateBy_of_ok prepared ended]
    simp only [Subscription.reason_lifetimeAfter_iff established]
  · rename_i failed
    obtain ⟨ending, started⟩ := started
    rw [started] at ended
    rw [result_operateBy_of_error prepared ended,
      if_neg (Subscription.lifetime_of_not_established failed)]

/-! ## The launch -/

section

variable {env : Environment} {argv : List String} {s : Settings}
  (work : Settings → Action (Subscription σ) Ending) (before : Subscription σ)

/-- A command line that gives no settings ends the program at once. -/
theorem programBy_of_exit {exit : Exit} (parsed : parse (.ofEnvironment env) argv = .error exit) :
    programBy env argv work before =
      ⟨.ok (.printed (exit.printed (.ofEnvironment env))), [], before⟩ := by
  rw [programBy, parsed]
  rfl

/-- A level of no rank ends the program in a failure. -/
theorem programBy_of_unranked {f : Failure} (parsed : parse (.ofEnvironment env) argv = .ok s)
    (unranked : rankOf s.logLevel = .error f) :
    programBy env argv work before = ⟨.error f, [], before⟩ := by
  rw [programBy, parsed]
  simp [unranked, Action.ofExcept, Action.bind]

/-- Otherwise all goes on. -/
theorem programBy_of_ranked {rank : Nat} (parsed : parse (.ofEnvironment env) argv = .ok s)
    (ranked : rankOf s.logLevel = .ok rank) :
    programBy env argv work before = telling rank (work s) before := by
  rw [programBy, parsed]
  simp [ranked, Action.ofExcept, Action.bind]

end

/-- How far a program gets: to the operator if the level has a rank and all can be prepared. -/
theorem begun_programBy_iff {env : Environment} {argv : List String} {s : Settings}
    (parsed : parse (.ofEnvironment env) argv = .ok s) (places : Places)
    {run : Settings → Action (Subscription σ) Reason} {world : σ}
    (begins : (run s (.fresh world)).state.begun = true) :
    (programBy env argv (fun s => operateBy s places (run s)) (.fresh world)).state.begun = true ↔
      (∃ rank, rankOf s.logLevel = .ok rank) ∧ verdict places s = .ok () := by
  cases ranked : rankOf s.logLevel with
  | error f =>
    rw [programBy_of_unranked _ _ parsed ranked]
    refine iff_of_false Bool.false_ne_true ?_
    rintro ⟨⟨rank, some⟩, -⟩
    cases some
  | ok rank =>
    rw [programBy_of_ranked _ _ parsed ranked, telling]
    cases prepared : verdict places s with
    | error f =>
      obtain ⟨kept, -⟩ := operateBy_of_unprepared places s prepared (run s) (.fresh world)
      rw [kept]
      refine iff_of_false Bool.false_ne_true ?_
      rintro ⟨-, ready⟩
      cases ready
    | ok u =>
      rw [state_operateBy prepared]
      exact iff_of_true begins ⟨⟨rank, rfl⟩, rfl⟩

/-- The failures in which a launch crashes. -/
inductive Crash (env : Environment) (argv : List String) (places : Places) : Failure → Prop
  /-- No option gives a level, and the name that the environment gives is not that of any. -/
  | unknownLevel {s : Settings} (parsed : parse (.ofEnvironment env) argv = .ok s)
      (level : s.logLevel = .str (Text.upperCase ((env.get? .logLevel).getD "INFO")))
      (unknown : rankOf? (Text.upperCase ((env.get? .logLevel).getD "INFO")) = none) :
      Crash env argv places (.badValue ("Unknown level: " ++
        Text.quoted (Text.upperCase ((env.get? .logLevel).getD "INFO"))))
  /-- The option for the level comes with two hyphens attached. -/
  | noLevel {s : Settings} (parsed : parse (.ofEnvironment env) argv = .ok s)
      (level : s.logLevel = .list []) :
      Crash env argv places (.badType ("Level not an integer or a valid string: " ++
        (Value.list []).quoted))
  /-- The place of credentials that decides fails in a way that nobody provided for. -/
  | credentials {s : Settings} {rank : Nat} {f : Failure}
      (parsed : parse (.ofEnvironment env) argv = .ok s) (ranked : rankOf s.logLevel = .ok rank)
      (failed : places.answer (decisive places s.kubeconfig) = .error f)
      (unforeseen : f.isProvidedFor = false) : Crash env argv places f
  /-- The option for the period comes with two hyphens attached. -/
  | noPeriod {s : Settings} {rank : Nat} (parsed : parse (.ofEnvironment env) argv = .ok s)
      (ranked : rankOf s.logLevel = .ok rank)
      (found : places.answer (decisive places s.kubeconfig) = .ok ())
      (period : s.resyncPeriod = .list []) :
      Crash env argv places (.incomparable "<" (.list []))

section

variable {env : Environment} {argv : List String} {places : Places} {s : Settings} {f : Failure}

/-- What has no rank is an unchecked name from the environment or the empty sequence. -/
theorem crash_of_unranked (parsed : parse (.ofEnvironment env) argv = .ok s)
    (unranked : rankOf s.logLevel = .error f) : Crash env argv places f := by
  rcases logLevel_of_parse parsed with empty | ⟨name, known, level⟩ | level
  · rw [empty] at unranked
    obtain rfl := Except.error.inj unranked
    exact .noLevel parsed empty
  · -- What can be chosen always has a rank.
    have ranked : ∀ name ∈ levelChoices, (rankOf? name).isSome = true := by decide
    have some := ranked name known
    rw [level, rankOf] at unranked
    cases rank : rankOf? name with
    | none => simp [rank] at some
    | some n => simp [rank] at unranked
  · rw [level, rankOf] at unranked
    cases rank : rankOf? (Text.upperCase ((env.get? .logLevel).getD "INFO")) with
    | none =>
      rw [rank] at unranked
      obtain rfl := Except.error.inj unranked
      exact .unknownLevel parsed level rank
    | some n => simp [rank] at unranked

/-- What cannot be prepared, and is no fault of the configuration, is an unforeseen failure of the
place that decides or the empty sequence. -/
theorem crash_of_unprepared {rank : Nat} (parsed : parse (.ofEnvironment env) argv = .ok s)
    (ranked : rankOf s.logLevel = .ok rank) (failed : verdict places s = .error f)
    (inexcusable : ∀ message, f ≠ .configuration message) : Crash env argv places f := by
  rcases verdict_eq_error_iff.mp failed with ⟨g, found, rfl⟩ | ⟨found, m, wrong, rfl⟩
  · cases foreseen : g.isProvidedFor with
    | true =>
      obtain ⟨message, configuration⟩ := explain_of_isProvidedFor foreseen
      exact absurd configuration (inexcusable message)
    | false =>
      rw [(explain_of_not_isProvidedFor foreseen).1]
      exact .credentials parsed ranked found foreseen
  · rcases Operator.of_misconfiguration?_eq_some wrong with
      ⟨message, configuration⟩ | ⟨uncounted, same⟩
    · exact absurd configuration (inexcusable message)
    · rcases resyncPeriod_of_parse parsed with empty | ⟨x, number⟩
      · rw [same, empty]
        exact .noPeriod parsed ranked found empty
      · rw [number] at uncounted
        cases uncounted

/-- A failure to prepare that is no fault of the configuration leaves the program. -/
theorem program_of_unprepared {rank : Nat} (parsed : parse (.ofEnvironment env) argv = .ok s)
    (ranked : rankOf s.logLevel = .ok rank) (failed : verdict places s = .error f)
    (inexcusable : ∀ message, f ≠ .configuration message) (answer : Answering σ)
    (script : List Happening) (before : Subscription σ) :
    (program env argv places answer script before).result = .error f ∧
      (program env argv places answer script before).state = before := by
  rw [program, programBy_of_ranked _ before parsed ranked]
  obtain ⟨kept, ⟨⟨message, same⟩, -⟩ | ⟨-, left⟩⟩ :=
    operateBy_of_unprepared places s failed (Operator.run s answer script) before
  · exact absurd same (inexcusable message)
  · exact ⟨left, kept⟩

/-- Every one of these failures does leave the program, and the operator is not reached. -/
theorem program_of_crash (crash : Crash env argv places f) (answer : Answering σ)
    (script : List Happening) (before : Subscription σ) :
    (program env argv places answer script before).result = .error f ∧
      (program env argv places answer script before).state = before := by
  cases crash with
  | @unknownLevel s parsed level unknown =>
    have unranked : rankOf s.logLevel = .error (.badValue ("Unknown level: " ++
        Text.quoted (Text.upperCase ((env.get? .logLevel).getD "INFO")))) := by
      rw [level, rankOf, unknown]
    rw [program, programBy_of_unranked _ before parsed unranked]
    exact ⟨rfl, rfl⟩
  | @noLevel s parsed level =>
    have unranked : rankOf s.logLevel = .error (.badType
        ("Level not an integer or a valid string: " ++ (Value.list []).quoted)) := by
      rw [level]
      rfl
    rw [program, programBy_of_unranked _ before parsed unranked]
    exact ⟨rfl, rfl⟩
  | @credentials s rank f parsed ranked failed unforeseen =>
    obtain ⟨unexplained, inexcusable⟩ := explain_of_not_isProvidedFor unforeseen
    have unprepared : verdict places s = .error f :=
      verdict_eq_error_iff.mpr (.inl ⟨f, failed, unexplained⟩)
    exact program_of_unprepared parsed ranked unprepared inexcusable answer script before
  | @noPeriod s rank parsed ranked found period =>
    have wrong : Operator.misconfiguration? true s = some (.noPeriod (.list [])) := by
      simp [Operator.misconfiguration?, period, Value.number?]
    have unprepared : verdict places s = .error (.incomparable "<" (.list [])) :=
      verdict_eq_error_iff.mpr (.inr ⟨found, _, wrong, rfl⟩)
    have inexcusable (message : String) :
        Failure.incomparable "<" (.list []) ≠ .configuration message := by
      intro same
      cases same
    exact program_of_unprepared parsed ranked unprepared inexcusable answer script before

end

/-- The program, with a subscription that nobody has started. -/
def launch (env : Environment) (argv : List String) (places : Places) (answer : Answering σ)
    (script : List Happening) (world : σ) : Outcome (Subscription σ) Ending :=
  program env argv places answer script (.fresh world)

/-- A launch in which the sides of the subscription take their turns as given. -/
def launchInTurns (env : Environment) (argv : List String) (places : Places) (answer : Answering σ)
    (script : List Happening) (turns : List Turn) (world : σ) : Outcome (Subscription σ) Ending :=
  programInTurns env argv places answer script turns (.fresh world)

/-- The stages at which a launch may end: the command line, a fault of the configuration, a crash,
or the operator, which then runs with settings that it accepts.  Which of them it is depends neither
on what the cluster answers nor on what happens. -/
theorem launch_cases (env : Environment) (argv : List String) (places : Places) :
    (∃ exit : Exit, ∀ (answer : Answering σ) (script : List Happening) (world : σ),
      (launch env argv places answer script world).result =
        .ok (.printed (exit.printed (.ofEnvironment env))) ∧
      (launch env argv places answer script world).state.begun = false) ∨
    (∀ (answer : Answering σ) (script : List Happening) (world : σ),
      (launch env argv places answer script world).result = .ok (.status 1) ∧
      (launch env argv places answer script world).state.begun = false) ∨
    (∃ f, Crash env argv places f) ∨
    ∃ s, Operator.misconfiguration? true s = none ∧
      ∀ (answer : Answering σ) (script : List Happening) (world : σ),
        (launch env argv places answer script world).state.begun = true ∧
        (launch env argv places answer script world).result = .ok (.status
          (if (Serving.serve (Operator.watchOf s) (Operator.handler s answer) script
            (Subscription.fresh world).serving).state.lifetime = .endedFor (some .graceful) then 0
          else 1)) := by
  cases parsed : parse (.ofEnvironment env) argv with
  | error exit =>
    refine .inl ⟨exit, fun answer script world => ?_⟩
    rw [launch, program, programBy_of_exit _ _ parsed]
    exact ⟨rfl, rfl⟩
  | ok s =>
    cases ranked : rankOf s.logLevel with
    | error f => exact .inr (.inr (.inl ⟨f, crash_of_unranked parsed ranked⟩))
    | ok rank =>
      cases prepared : verdict places s with
      | error f =>
        by_cases excusable : ∃ message, f = .configuration message
        · refine .inr (.inl fun answer script world => ?_)
          obtain ⟨kept, ⟨-, ended⟩ | ⟨inexcusable, -⟩⟩ :=
            operateBy_of_unprepared places s prepared (Operator.run s answer script)
              (.fresh world)
          · rw [launch, program, programBy_of_ranked _ _ parsed ranked]
            exact ⟨ended, congrArg Subscription.begun kept⟩
          · obtain ⟨message, same⟩ := excusable
            exact absurd same (inexcusable message)
        · exact .inr (.inr (.inl ⟨f, crash_of_unprepared parsed ranked prepared
            (not_exists.mp excusable)⟩))
      | ok u =>
        refine .inr (.inr (.inr ⟨s, (verdict_eq_ok_iff.mp prepared).2,
          fun answer script world => ?_⟩))
        rw [launch, program, programBy_of_ranked _ _ parsed ranked]
        exact operate_of_prepared places s prepared rfl

/-- **How a launch ends.**  Whatever the environment and the arguments are, and whatever the places
of credentials answer, a failure leaves the program exactly if it is one of `Crash`, and then the
operator is not reached.  In every other case the program ends at the command line with status zero
or two, or with status one before the operator runs, or it reaches the operator and returns its
status. -/
theorem crashes_iff (env : Environment) (argv : List String) (places : Places)
    (answer : Answering σ) (script : List Happening) (world : σ) :
    (∀ f, (launch env argv places answer script world).result = .error f ↔
      Crash env argv places f) ∧
    ((∃ f, (launch env argv places answer script world).result = .error f ∧
        (launch env argv places answer script world).state.begun = false) ∨
      (∃ p, (launch env argv places answer script world).result = .ok (.printed p) ∧
        (p.status = 0 ∨ p.status = 2) ∧
        (launch env argv places answer script world).state.begun = false) ∨
      ((launch env argv places answer script world).result = .ok (.status 1) ∧
        (launch env argv places answer script world).state.begun = false) ∨
      ∃ n, (launch env argv places answer script world).result = .ok (.status n) ∧
        (launch env argv places answer script world).state.begun = true) := by
  have sound (f : Failure) (crash : Crash env argv places f) :
      (launch env argv places answer script world).result = .error f ∧
        (launch env argv places answer script world).state.begun = false := by
    obtain ⟨left, kept⟩ := program_of_crash crash answer script (.fresh world)
    exact ⟨left, congrArg Subscription.begun kept⟩
  have complete (f : Failure)
      (left : (launch env argv places answer script world).result = .error f) :
      Crash env argv places f := by
    rcases launch_cases env argv places with
      ⟨exit, printed⟩ | refused | ⟨g, crash⟩ | ⟨s, -, ended⟩
    · cases left.symm.trans (printed answer script world).1
    · cases left.symm.trans (refused answer script world).1
    · obtain rfl := Except.error.inj (left.symm.trans (sound g crash).1)
      exact crash
    · cases left.symm.trans (ended answer script world).2
  refine ⟨fun f => ⟨complete f, fun crash => (sound f crash).1⟩, ?_⟩
  rcases launch_cases env argv places with ⟨exit, printed⟩ | refused | ⟨f, crash⟩ | ⟨s, -, ended⟩
  · obtain ⟨printed, unbegun⟩ := printed answer script world
    refine .inr (.inl ⟨_, printed, ?_, unbegun⟩)
    cases exit with
    | help => exact .inl rfl
    | usage e => exact .inr rfl
  · exact .inr (.inr (.inl (refused answer script world)))
  · exact .inl ⟨f, sound f crash⟩
  · obtain ⟨begun, ended⟩ := ended answer script world
    exact .inr (.inr (.inr ⟨_, ended, begun⟩))

/-- The environment asks for a level that does not exist. -/
theorem unknown_level_crashes :
    Crash [("HABITAT_LOG_LEVEL", "verbose")] [] {} (.badValue "Unknown level: \x27VERBOSE\x27") ∧
      (launch [("HABITAT_LOG_LEVEL", "verbose")] [] {} Cluster.answer [] Cluster.empty).result =
        .error (.badValue "Unknown level: \x27VERBOSE\x27") ∧
      (launch [("HABITAT_LOG_LEVEL", "verbose")] ["--log-level", "debug"] {} Cluster.answer []
        Cluster.empty).result = .ok (.status 1) := by
  have left : (launch [("HABITAT_LOG_LEVEL", "verbose")] [] {} Cluster.answer []
      Cluster.empty).result = .error (.badValue "Unknown level: \x27VERBOSE\x27") := rfl
  have crash := ((crashes_iff _ _ _ _ _ _).1 _).mp left
  exact ⟨crash, left, rfl⟩

end Startup
end GroupOperator
