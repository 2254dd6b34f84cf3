import GroupOperator.Proofs.Items

/-!
# Options and the environment

A value can be given to a setting by its option or by the environment.  The option is the stricter
of the two: it refuses a period that is no number and a level that cannot be chosen, where the
environment falls back to a default or lets anything pass.  What the option accepts, both understand
alike (`fallback_of_meaning`), with one exception: an empty file name is a name for the option and
none for the environment.
-/

namespace GroupOperator.CommandLine

variable {k : Setting} {v : String} {x : Value} {env other : Environment}

/-- A setting's own option with a value attached. -/
def wholeItem (k : Setting) (v : String) (further : v ≠ "--") : Item where
  setting := k
  start := optionOf k
  value := v
  attached := true
  begins := List.prefix_rfl
  long := by cases k <;> decide
  tellable := further

/-! ## The environment's side -/

/-- An environment that holds what an option accepts comes to the same. -/
theorem fallback_of_meaning (further : v ≠ "--") (named : k = .kubeconfig → v ≠ "")
    (held : env.get? k = some v) (means : (wholeItem k v further).meaning? = some x) :
    fallback env k = x := by
  cases k with
  | kubeconfig =>
    obtain rfl := Option.some.inj means
    have kept : (some v).filter (· ≠ "") = some v :=
      Option.filter_eq_some_iff.mpr ⟨rfl, decide_eq_true (named rfl)⟩
    change Value.ofOption (((env.get? .kubeconfig).filter (· ≠ "")).map .str) = _
    rw [held, kept]
    rfl
  | namespaceName | workloadNamespace =>
    obtain rfl := Option.some.inj means
    simp only [fallback, Settings.ofEnvironment, Settings.value, held, Option.getD_some]
    rfl
  | resyncPeriod =>
    obtain ⟨n, number, rfl⟩ := Option.map_eq_some_iff.mp means
    change Numeral.decimal? v = some n at number
    simp only [fallback, Settings.ofEnvironment, Settings.value, Settings.periodOf, held,
      Option.bind_some, number, Option.getD_some]
  | logLevel =>
    obtain ⟨-, same⟩ := Option.ite_none_right_eq_some.mp means
    obtain rfl := Option.some.inj same
    simp only [fallback, held, Option.getD_some]
    rfl

/-- What a setting comes to is up to its own variable. -/
theorem fallback_congr (alike : env.get? k = other.get? k) : fallback env k = fallback other k := by
  cases k <;> simp only [fallback, Settings.ofEnvironment, Settings.value, alike]

/-! ## The option's side -/

/-- Without arguments, every setting comes to its default. -/
theorem parse_nothing (env : Environment) :
    parse (.ofEnvironment env) [] = .ok (.ofValues (fallback env)) := by
  have good : ∀ i ∈ ([] : List Item), i.meaning? ≠ none := by
    intro i hi
    cases hi
  have read := parse_of_good good env
  have nothing (k : Setting) : ({} : Settings.Given).value? k = none := by cases k <;> rfl
  simpa only [List.flatMap_nil, List.foldl_nil, nothing, Option.getD_none] using read

/-- With an option that is accepted, its setting is what it means, and the others come to their
defaults. -/
theorem parse_whole (further : v ≠ "--") (means : (wholeItem k v further).meaning? = some x)
    (env : Environment) :
    parse (.ofEnvironment env) [optionOf k ++ "=" ++ v] =
      .ok (.ofValues fun l => if l = k then x else fallback env l) := by
  have good : ∀ i ∈ [wholeItem k v further], i.meaning? ≠ none := by
    intro i hi
    obtain rfl := List.mem_singleton.mp hi
    exact Option.ne_none_iff_exists'.mpr ⟨x, means⟩
  have given (l : Setting) : (({} : Settings.Given).set k x).value? l =
      if l = k then some x else none := by
    cases k <;> cases l <;> rfl
  have read := parse_of_good good env
  rw [List.foldl_cons, List.foldl_nil, Item.give_of_meaning means] at read
  refine read.trans (congrArg (Except.ok ∘ Settings.ofValues) (funext fun l => ?_))
  change ((({} : Settings.Given).set k x).value? l).getD _ = _
  rw [given]
  split <;> rfl

/-- An option that is accepted means something. -/
theorem exists_meaning {s : Settings} {defaults : Settings} (further : v ≠ "--")
    (accepted : parse defaults [optionOf k ++ "=" ++ v] = .ok s) :
    ∃ x, (wholeItem k v further).meaning? = some x := by
  cases means : (wholeItem k v further).meaning? with
  | some x => exact ⟨x, rfl⟩
  | none =>
    obtain ⟨e, refused⟩ := parse_of_bad ⟨wholeItem k v further, List.mem_singleton_self _, means⟩
      defaults
    cases accepted.symm.trans refused

/-- **What an option accepts can be given either way.**  If the option of a setting is accepted with
a value where nothing else is given, the settings are those of an environment that holds the value
under the setting's name and nothing else.  In any environment the option gives the setting that
same value, and the other settings are as without it. -/
theorem given_either_way {s : Settings} {bare only : Environment} (further : v ≠ "--")
    (named : k = .kubeconfig → v ≠ "") (unset : ∀ l, bare.get? l = none)
    (set : ∀ l, only.get? l = if l = k then some v else none)
    (accepted : parse (.ofEnvironment bare) [optionOf k ++ "=" ++ v] = .ok s) :
    parse (.ofEnvironment only) [] = .ok s ∧
      ∀ env : Environment, ∃ given without,
        parse (.ofEnvironment env) [optionOf k ++ "=" ++ v] = .ok given ∧
        parse (.ofEnvironment env) [] = .ok without ∧
        given.value k = s.value k ∧ ∀ l, l ≠ k → given.value l = without.value l := by
  obtain ⟨x, means⟩ := exists_meaning further accepted
  obtain rfl := Except.ok.inj ((parse_whole further means bare).symm.trans accepted)
  constructor
  · have same : fallback only = fun l => if l = k then x else fallback bare l := by
      funext l
      by_cases own : l = k
      · subst own
        rw [if_pos rfl]
        exact fallback_of_meaning further named ((set l).trans (if_pos rfl)) means
      · rw [if_neg own]
        exact fallback_congr (((set l).trans (if_neg own)).trans (unset l).symm)
    rw [parse_nothing, same]
  · intro env
    refine ⟨_, _, parse_whole further means env, parse_nothing env, ?_, fun l others => ?_⟩
    · rw [Settings.value_ofValues, Settings.value_ofValues, if_pos rfl, if_pos rfl]
    · rw [Settings.value_ofValues, Settings.value_ofValues, if_neg others]

/-- A level in lower case can be given either way, and the option outdoes a level of the
environment. -/
theorem debug_either_way :
    parse (.ofEnvironment [("HABITAT_LOG_LEVEL", "debug")]) [] =
        parse (.ofEnvironment []) ["--log-level=debug"] ∧
      ∃ given, parse (.ofEnvironment [("HABITAT_LOG_LEVEL", "nonsense")]) ["--log-level=debug"] =
        .ok given ∧ given.logLevel = .str "DEBUG" := by
  have accepted : parse (.ofEnvironment []) [optionOf .logLevel ++ "=" ++ "debug"] =
      .ok { Settings.ofEnvironment [] with logLevel := .str "DEBUG" } := by decide +kernel
  have set (l : Setting) : Environment.get? [("HABITAT_LOG_LEVEL", "debug")] l =
      if l = .logLevel then some "debug" else none := by
    cases l <;> rfl
  obtain ⟨either, flag⟩ :=
    given_either_way (by decide) (by simp) (fun _ => rfl) set accepted
  obtain ⟨given, -, read, -, level, -⟩ := flag [("HABITAT_LOG_LEVEL", "nonsense")]
  exact ⟨either.trans accepted.symm, given, read, level⟩

end GroupOperator.CommandLine
