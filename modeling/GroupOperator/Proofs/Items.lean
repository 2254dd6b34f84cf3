import GroupOperator.Proofs.Provenance
import GroupOperator.Proofs.Spelling
import Mathlib.Data.List.Induction

/-!
# What a row of items gives

A command line that is a row of items is an update of the environment's settings: what an item means
replaces what its setting was given before, and a setting without an item keeps its default.

* Following good items gives each of them in turn (`follow_of_good`), and the last item about a
  setting is the one that is left (`value?_give`).
* Following stops at the first bad item, whatever comes after it (`follow_of_bad`).

No default of an environment can fail, for there a period is a number already, and nothing is asked
of a level but to be a text (`interpretDefault_ofEnvironment`).
-/

namespace GroupOperator

/-- The settings that hold such values. -/
def Settings.ofValues (value : Setting → Value) : Settings where
  namespaceName := value .namespaceName
  workloadNamespace := value .workloadNamespace
  resyncPeriod := value .resyncPeriod
  logLevel := value .logLevel
  kubeconfig := value .kubeconfig

@[simp] theorem Settings.value_ofValues (value : Setting → Value) (k : Setting) :
    (ofValues value).value k = value k := by
  cases k <;> rfl

/-- Values for different settings can be given in either order. -/
theorem Settings.Given.set_comm (g : Given) {k l : Setting} (differ : k ≠ l) (v w : Value) :
    (g.set k v).set l w = (g.set l w).set k v := by
  cases k <;> cases l <;> first | rfl | exact absurd rfl differ

namespace CommandLine

/-! ## Defaults -/

/-- What a setting comes to in an environment if nothing is given for it: its default, and a level
in upper case. -/
def fallback (env : Environment) : Setting → Value
  | .logLevel => .str (Text.upperCase ((env.get? .logLevel).getD "INFO"))
  | k => (Settings.ofEnvironment env).value k

/-- The defaults of an environment are in order. -/
theorem interpretDefault_ofEnvironment (env : Environment) (k : Setting) :
    interpretDefault k ((Settings.ofEnvironment env).value k) = .ok (fallback env k) := by
  cases k with
  | kubeconfig =>
    change interpretDefault .kubeconfig (Value.ofOption _) = .ok (Value.ofOption _)
    cases (env.get? .kubeconfig).filter (· ≠ "") <;> rfl
  | namespaceName | workloadNamespace | resyncPeriod | logLevel => rfl

/-- What is given in an environment is settled. -/
theorem settleAll_ofEnvironment (env : Environment) (g : Settings.Given) :
    settleAll (.ofEnvironment env) g =
      .ok (.ofValues fun k => (g.value? k).getD (fallback env k)) := by
  have settled (k : Setting) : settle k ((Settings.ofEnvironment env).value k) (g.value? k) =
      .ok ((g.value? k).getD (fallback env k)) := by
    cases g.value? k with
    | none => exact interpretDefault_ofEnvironment env k
    | some v => rfl
  have kubeconfig := settled .kubeconfig
  have namespaceName := settled .namespaceName
  have workloadNamespace := settled .workloadNamespace
  have resyncPeriod := settled .resyncPeriod
  have logLevel := settled .logLevel
  simp only [Settings.value, Settings.Given.value?] at *
  rw [settleAll, kubeconfig, namespaceName, workloadNamespace, resyncPeriod, logLevel]
  rfl

/-! ## What the items give -/

namespace Item

/-- What is given with an item more. -/
def give (g : Settings.Given) (i : Item) : Settings.Given :=
  match i.meaning? with
  | some v => g.set i.setting v
  | none => g

theorem give_of_meaning {i : Item} {v : Value} (means : i.meaning? = some v) (g : Settings.Given) :
    give g i = g.set i.setting v := by
  rw [give, means]

/-- An option is given what its item means, and refuses an item that means nothing. -/
theorem choose_value (i : Item) :
    match i.meaning? with
    | some v => choose i.setting i.value = .ok v
    | none => ∃ e, choose i.setting i.value = .error (.usage e) := by
  obtain ⟨k, start, text, attached, begins, long, tellable⟩ := i
  cases k with
  | kubeconfig | namespaceName | workloadNamespace => rfl
  | resyncPeriod =>
    simp only [meaning?, choose, interpret]
    cases Numeral.decimal? text with
    | some x => rfl
    | none => exact ⟨.notANumber text, rfl⟩
  | logLevel =>
    simp only [meaning?, choose, List.contains_iff_mem]
    by_cases known : Text.upperCase text ∈ levelChoices
    · rw [if_pos known]
      exact if_pos known
    · rw [if_neg known]
      exact ⟨.notALevel (Text.upperCase text), if_neg known⟩

theorem choose_of_meaning {i : Item} {v : Value} (means : i.meaning? = some v) :
    choose i.setting i.value = .ok v := by
  have chosen := i.choose_value
  rwa [means] at chosen

theorem choose_of_meaningless {i : Item} (meaningless : i.meaning? = none) :
    ∃ e, choose i.setting i.value = .error (.usage e) := by
  have refused := i.choose_value
  rwa [meaningless] at refused

end Item

/-- An item is followed by giving its option its value, however it is written. -/
theorem follow_item (i : Item) (rest : List Argument) (d : Draft) :
    follow (i.understood ++ rest) d =
      ((choose i.setting i.value).map fun v => { d with given := d.given.set i.setting v }) >>=
        follow rest := by
  have assigned := assign.eq_def i.setting i.value d
  rw [if_neg i.value_ne_hyphens] at assigned
  rw [← assigned, Item.understood]
  cases i.attached <;> rfl

/-- Good items are given one after the other. -/
theorem follow_of_good {items : List Item} (good : ∀ i ∈ items, i.meaning? ≠ none) (d : Draft) :
    follow (items.flatMap Item.understood) d =
      .ok { d with given := items.foldl Item.give d.given } := by
  induction items generalizing d with
  | nil => rfl
  | cons i items ih =>
    obtain ⟨v, means⟩ := Option.ne_none_iff_exists'.mp (good i List.mem_cons_self)
    rw [List.flatMap_cons, follow_item, Item.choose_of_meaning means, List.foldl_cons,
      Item.give_of_meaning means]
    exact ih (fun j hj => good j (List.mem_cons_of_mem i hj)) _

/-- A bad item is complained about, whatever comes before and after it. -/
theorem follow_of_bad {items : List Item} (bad : ∃ i ∈ items, i.meaning? = none) (d : Draft) :
    ∃ e, follow (items.flatMap Item.understood) d = .error (.usage e) := by
  induction items generalizing d with
  | nil =>
    obtain ⟨i, hi, -⟩ := bad
    cases hi
  | cons i items ih =>
    rw [List.flatMap_cons, follow_item]
    -- The first item ends the matter, or there is a bad one behind it.
    cases means : i.meaning? with
    | none =>
      obtain ⟨e, refused⟩ := Item.choose_of_meaningless means
      exact ⟨e, by rw [refused]; rfl⟩
    | some v =>
      rw [Item.choose_of_meaning means]
      obtain ⟨j, hj, meaningless⟩ := bad
      refine ih ⟨j, List.mem_of_ne_of_mem ?_ hj, meaningless⟩ _
      rintro rfl
      rw [means] at meaningless
      cases meaningless

/-! ## The last item about a setting -/

theorem Item.last?_concat (k : Setting) (items : List Item) (i : Item) :
    last? k (items ++ [i]) = if i.setting = k then some i else last? k items := by
  rw [last?, last?, List.filter_append]
  by_cases about : i.setting = k
  · rw [if_pos about, List.filter_cons_of_pos (by simpa using about), List.filter_nil]
    exact List.getLast?_concat
  · rw [if_neg about, List.filter_cons_of_neg (by simpa using about), List.filter_nil,
      List.append_nil]

/-- What a row of good items leaves given for a setting: what the last of them means, or what was
given before. -/
theorem value?_give {items : List Item} (good : ∀ i ∈ items, i.meaning? ≠ none)
    (g : Settings.Given) (k : Setting) :
    (items.foldl Item.give g).value? k =
      match Item.last? k items with
      | some i => i.meaning?
      | none => g.value? k := by
  -- From the end of the row, where it is decided which item is the last about the setting.
  induction items using List.reverseRecOn with
  | nil => rfl
  | append_singleton items i ih =>
    have before := ih fun j hj => good j (List.mem_append_left _ hj)
    obtain ⟨v, means⟩ :=
      Option.ne_none_iff_exists'.mp (good i (List.mem_append_right _ List.mem_cons_self))
    rw [List.foldl_append, List.foldl_cons, List.foldl_nil, Item.give_of_meaning means,
      Settings.Given.value?_set, Item.last?_concat]
    by_cases about : i.setting = k
    · rw [if_pos about, if_pos about]
      exact means.symm
    · rw [if_neg about, if_neg about, before]

/-- Neighbours about different settings can change places. -/
theorem Item.give_comm {i j : Item} (differ : i.setting ≠ j.setting) (g : Settings.Given) :
    give (give g i) j = give (give g j) i := by
  simp only [give]
  cases i.meaning? with
  | none => rfl
  | some v =>
    cases j.meaning? with
    | none => rfl
    | some w => exact g.set_comm differ v w

/-! ## Reading a row of items -/

/-- A row of items is read by following it. -/
theorem parse_of_items (defaults : Settings) (items : List Item) :
    parse defaults (items.flatMap Item.arguments) =
      follow (items.flatMap Item.understood) {} >>= fun draft =>
        settleAll defaults draft.given >>= fun settings =>
          if draft.leftover.isEmpty then .ok settings
          else .error (.usage (.unrecognized draft.leftover.reverse)) := by
  rw [parse, understandAll_items]
  rfl

/-- What good items give replaces what there is in the environment. -/
theorem parse_of_good {items : List Item} (good : ∀ i ∈ items, i.meaning? ≠ none)
    (env : Environment) :
    parse (.ofEnvironment env) (items.flatMap Item.arguments) =
      .ok (.ofValues fun k => ((items.foldl Item.give {}).value? k).getD (fallback env k)) := by
  rw [parse_of_items, follow_of_good good]
  change settleAll _ (items.foldl Item.give {}) >>= _ = _
  rw [settleAll_ofEnvironment]
  rfl

/-- A bad item makes the whole row bad. -/
theorem parse_of_bad {items : List Item} (bad : ∃ i ∈ items, i.meaning? = none)
    (defaults : Settings) :
    ∃ e, parse defaults (items.flatMap Item.arguments) = .error (.usage e) := by
  obtain ⟨e, refused⟩ := follow_of_bad bad {}
  exact ⟨e, by rw [parse_of_items, refused]; rfl⟩

/-- **A row of items is an update in which the last item about a setting counts.** If every item
means something, the row is read.  A setting is then what the last item about it means, or what its
default comes to if there is none, so that neighbours about different settings can change places.
If some item means nothing, the program ends at its command line with status 2, whatever the others
mean. -/
theorem parse_items (env : Environment) (items : List Item) :
    ((∀ i ∈ items, i.meaning? ≠ none) →
      (∃ s, parse (.ofEnvironment env) (items.flatMap Item.arguments) = .ok s ∧
        ∀ k, match Item.last? k items with
          | some i => i.meaning? = some (s.value k)
          | none => s.value k = fallback env k) ∧
      ∀ before i j after, items = before ++ i :: j :: after → i.setting ≠ j.setting →
        parse (.ofEnvironment env) ((before ++ j :: i :: after).flatMap Item.arguments) =
          parse (.ofEnvironment env) (items.flatMap Item.arguments)) ∧
    ((∃ i ∈ items, i.meaning? = none) →
      ∃ exit, parse (.ofEnvironment env) (items.flatMap Item.arguments) = .error exit ∧
        (exit.printed (.ofEnvironment env)).status = 2) := by
  refine ⟨fun good => ⟨⟨_, parse_of_good good env, fun k => ?_⟩, ?_⟩, fun bad => ?_⟩
  · have given := value?_give good {} k
    rw [Settings.value_ofValues, given]
    cases last : Item.last? k items with
    | none =>
      cases k <;> rfl
    | some i =>
      have among : i ∈ items := (List.mem_filter.mp (List.mem_of_getLast? last)).1
      obtain ⟨v, means⟩ := Option.ne_none_iff_exists'.mp (good i among)
      dsimp only
      rw [means]
      rfl
  · rintro before i j after rfl differ
    have swapped : ∀ i' ∈ before ++ j :: i :: after, i'.meaning? ≠ none := by
      intro i' hi'
      exact good i' (((List.Perm.swap i j after).append_left before).subset hi')
    rw [parse_of_good swapped, parse_of_good good]
    simp only [List.foldl_append, List.foldl_cons, Item.give_comm differ]
  · obtain ⟨e, refused⟩ := parse_of_bad bad (.ofEnvironment env)
    exact ⟨.usage e, refused, rfl⟩

/-- Two options cut short, and one of them given again in full. -/
def sampleItems : List Item := [
  ⟨.logLevel, "--log", "info", true, by decide +kernel, by decide, by decide⟩,
  ⟨.namespaceName, "--n", "prod", false, by decide +kernel, by decide, by decide⟩,
  ⟨.logLevel, "--log-level", "Error", false, by decide +kernel, by decide, by decide⟩]

/-- A period that is no number, and one that is. -/
def hastyItems : List Item := [
  ⟨.resyncPeriod, "--r", "soon", true, by decide +kernel, by decide, by decide⟩,
  ⟨.resyncPeriod, "--resync-period", "5", false, by decide +kernel, by decide, by decide⟩]

/-- The level given last counts, the empty file name of the environment is none, and a good period
makes up for no bad one. -/
theorem sampleItems_parsed :
    (∃ s, parse (.ofEnvironment [("KUBECONFIG", ""), ("HABITAT_LOG_LEVEL", "debug")])
        ["--log=info", "--n", "prod", "--log-level", "Error"] = .ok s ∧
      s.logLevel = .str "ERROR" ∧ s.namespaceName = .str "prod" ∧ s.kubeconfig = .null) ∧
    ∃ exit, parse (.ofEnvironment []) ["--r=soon", "--resync-period", "5"] = .error exit ∧
      (exit.printed (.ofEnvironment [])).status = 2 := by
  refine ⟨?_, (parse_items [] hastyItems).2 ⟨_, List.mem_cons_self, by decide +kernel⟩⟩
  obtain ⟨s, parsed, values⟩ :=
    ((parse_items [("KUBECONFIG", ""), ("HABITAT_LOG_LEVEL", "debug")] sampleItems).1
      (by decide +kernel)).1
  refine ⟨s, parsed, ?_, ?_, values .kubeconfig⟩
  · have level : sampleItems[2].meaning? = some (.str "ERROR") := by decide +kernel
    exact Option.some.inj ((values .logLevel).symm.trans level)
  · exact (Option.some.inj (values .namespaceName)).symm

end CommandLine

end GroupOperator
