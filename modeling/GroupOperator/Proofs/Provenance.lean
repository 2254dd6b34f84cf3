import GroupOperator.CommandLine

/-!
# Where a setting comes from

A setting is given by an option or falls back to its default (`CommandLine.value_of_parse`).  What
an option gives has been checked, with one exception: two hyphens attached to the option give the
empty sequence.  A default has been checked by nobody, and that matters for the level, whose default
is any text of the environment.
-/

namespace GroupOperator

/-! ## What a setting may come to -/

/-- What settings hold for a setting. -/
def Settings.value (s : Settings) : Setting → Value
  | .kubeconfig => s.kubeconfig
  | .namespaceName => s.namespaceName
  | .workloadNamespace => s.workloadNamespace
  | .resyncPeriod => s.resyncPeriod
  | .logLevel => s.logLevel

/-- What was given for a setting. -/
def Settings.Given.value? (g : Settings.Given) : Setting → Option Value
  | .kubeconfig => g.kubeconfig
  | .namespaceName => g.namespaceName
  | .workloadNamespace => g.workloadNamespace
  | .resyncPeriod => g.resyncPeriod
  | .logLevel => g.logLevel

theorem Settings.Given.value?_set (g : Settings.Given) (k l : Setting) (v : Value) :
    (g.set k v).value? l = if k = l then some v else g.value? l := by
  cases k <;> cases l <;> rfl

namespace CommandLine

/-- What an option can give a setting: what a text means for it, or the empty sequence. -/
def Offers (k : Setting) (v : Value) : Prop :=
  v = .list [] ∨ ∃ text, choose k text = .ok v

/-- All that was given was given by options. -/
def Draft.IsOffered (d : Draft) : Prop :=
  ∀ k v, d.given.value? k = some v → Offers k v

/-- A value that is assigned is one that the option can give. -/
theorem isOffered_assign {k : Setting} {text : String} {d d' : Draft} (offered : d.IsOffered)
    (assigned : assign k text d = .ok d') : d'.IsOffered := by
  have offer : ∃ v, Offers k v ∧ d' = { d with given := d.given.set k v } := by
    rw [assign] at assigned
    split at assigned
    · exact ⟨.list [], .inl rfl, (Except.ok.inj assigned).symm⟩
    · cases chosen : choose k text with
      | error exit =>
        rw [chosen] at assigned
        cases assigned
      | ok v =>
        rw [chosen] at assigned
        exact ⟨v, .inr ⟨text, chosen⟩, (Except.ok.inj assigned).symm⟩
  obtain ⟨v, hv, rfl⟩ := offer
  intro l w given
  rw [Settings.Given.value?_set] at given
  split at given
  · rename_i same
    subst same
    obtain rfl := Option.some.inj given
    exact hv
  · exact offered l w given

/-- A good end of two parts means a good end of each. -/
theorem of_bind_eq_ok {ε α β : Type} {x : Except ε α} {k : α → Except ε β} {b : β}
    (h : x >>= k = .ok b) : ∃ a, x = .ok a ∧ k a = .ok b := by
  cases x with
  | error e => cases h
  | ok a => exact ⟨a, rfl, h⟩

/-- Following arguments keeps to what options can give. -/
theorem isOffered_follow : ∀ (arguments : List Argument) {d d' : Draft}, d.IsOffered →
    follow arguments d = .ok d' → d'.IsOffered
  | [], d, d', offered, followed => by
    obtain rfl := Except.ok.inj followed
    exact offered
  | .plain text :: rest, d, d', offered, followed =>
    isOffered_follow rest (d := { d with leftover := text :: d.leftover }) offered followed
  | .separator :: rest, d, d', offered, followed =>
    isOffered_follow rest (d := { d with leftover := "--" :: d.leftover }) offered followed
  | .unknown text :: rest, d, d', offered, followed =>
    isOffered_follow rest (d := { d with leftover := text :: d.leftover }) offered followed
  | .option (.setting k) (some value) :: rest, d, d', offered, followed => by
    obtain ⟨next, assigned, followed⟩ := of_bind_eq_ok followed
    exact isOffered_follow rest (isOffered_assign offered assigned) followed
  | .option (.setting k) none :: .plain value :: rest, d, d', offered, followed => by
    obtain ⟨next, assigned, followed⟩ := of_bind_eq_ok followed
    exact isOffered_follow rest (isOffered_assign offered assigned) followed
  | .option (.setting k) none :: [], _, _, _, followed
  | .option (.setting k) none :: .separator :: _, _, _, _, followed
  | .option (.setting k) none :: .unknown _ :: _, _, _, _, followed
  | .option (.setting k) none :: .shortHelp _ :: _, _, _, _, followed
  | .option (.setting k) none :: .option _ _ :: _, _, _, _, followed
  | .option .help _ :: _, _, _, _, followed
  | .shortHelp _ :: _, _, _, _, followed => by
    cases followed

/-- Each setting is settled on its own. -/
theorem settle_of_settleAll {defaults s : Settings} {g : Settings.Given}
    (settled : settleAll defaults g = .ok s) (k : Setting) :
    settle k (defaults.value k) (g.value? k) = .ok (s.value k) := by
  obtain ⟨kubeconfig, first, settled⟩ := of_bind_eq_ok settled
  obtain ⟨namespaceName, second, settled⟩ := of_bind_eq_ok settled
  obtain ⟨workloadNamespace, third, settled⟩ := of_bind_eq_ok settled
  obtain ⟨resyncPeriod, fourth, settled⟩ := of_bind_eq_ok settled
  obtain ⟨logLevel, fifth, settled⟩ := of_bind_eq_ok settled
  obtain rfl := Except.ok.inj settled
  cases k with
  | kubeconfig => exact first
  | namespaceName => exact second
  | workloadNamespace => exact third
  | resyncPeriod => exact fourth
  | logLevel => exact fifth

/-- Where a setting comes from: an option, or the default behind it. -/
theorem value_of_parse {defaults s : Settings} {argv : List String}
    (parsed : parse defaults argv = .ok s) (k : Setting) :
    Offers k (s.value k) ∨ interpretDefault k (defaults.value k) = .ok (s.value k) := by
  obtain ⟨arguments, -, parsed⟩ := of_bind_eq_ok parsed
  obtain ⟨draft, followed, parsed⟩ := of_bind_eq_ok parsed
  obtain ⟨settings, settled, parsed⟩ := of_bind_eq_ok parsed
  have same : settings = s := by
    split at parsed
    · exact Except.ok.inj parsed
    · cases parsed
  subst same
  have nothing : ({} : Draft).IsOffered := by
    intro l v given
    cases l <;> cases given
  have offered : draft.IsOffered := isOffered_follow arguments nothing followed
  have source := settle_of_settleAll settled k
  cases given : draft.given.value? k with
  | none =>
    rw [given] at source
    exact .inr source
  | some v =>
    rw [given] at source
    obtain rfl := Except.ok.inj source
    exact .inl (offered k _ given)

variable {env : Environment} {argv : List String} {s : Settings}

/-- A level is the empty sequence, or one of the choices, or what the environment says, in upper
case and checked by nobody. -/
theorem logLevel_of_parse (parsed : parse (Settings.ofEnvironment env) argv = .ok s) :
    s.logLevel = .list [] ∨ (∃ name ∈ levelChoices, s.logLevel = .str name) ∨
      s.logLevel = .str (Text.upperCase ((env.get? .logLevel).getD "INFO")) := by
  rcases value_of_parse parsed .logLevel with (empty | ⟨text, chosen⟩) | default
  · exact .inl empty
  · rw [choose] at chosen
    split at chosen
    · rename_i known
      exact .inr (.inl ⟨_, List.contains_iff_mem.mp known, (Except.ok.inj chosen).symm⟩)
    · cases chosen
  · exact .inr (.inr (Except.ok.inj default).symm)

/-- A period is the empty sequence or a number. -/
theorem resyncPeriod_of_parse (parsed : parse (Settings.ofEnvironment env) argv = .ok s) :
    s.resyncPeriod = .list [] ∨ ∃ x, s.resyncPeriod = .float x := by
  rcases value_of_parse parsed .resyncPeriod with (empty | ⟨text, chosen⟩) | default
  · exact .inl empty
  · change interpret .resyncPeriod text = _ at chosen
    rw [interpret] at chosen
    split at chosen
    · exact .inr ⟨_, (Except.ok.inj chosen).symm⟩
    · cases chosen
  · exact .inr ⟨_, (Except.ok.inj default).symm⟩

end CommandLine

end GroupOperator
