import GroupOperator.CommandLine.Item
import Mathlib.Data.List.TakeWhile

/-!
# How options are spelled

An option is understood from any beginning that goes further than its hyphens, because no two
options go on alike after them.  There are few such beginnings, and none has an equals sign in it
(`standsFor_of_begins`).  So what an equals sign cuts off is the beginning and nothing else, and a
row of items is understood item by item (`understandAll_items`).
-/

namespace GroupOperator.CommandLine

/-! ## Beginnings -/

/-- Whether a text stands for the option of a setting: it is that option, or it is none and that
option alone begins with it. -/
structure StandsFor (start : List Char) (k : Setting) : Prop where
  /-- It goes on after two hyphens. -/
  hyphens : ∃ c rest, start = '-' :: '-' :: c :: rest
  /-- No value is attached to it. -/
  unattached : '=' ∉ start
  /-- The option is the only one that is meant. -/
  only : longOptions.lookup (String.ofList start) = some (.setting k) ∨
    longOptions.lookup (String.ofList start) = none ∧ matching start = [(optionOf k, .setting k)]

theorem mem_settings (k : Setting) : k ∈ settings := by
  cases k <;> decide

/-- The options go on differently after their hyphens. -/
theorem only_of_take : ∀ k ∈ settings, ∀ n ≤ (optionOf k).toList.length, 2 < n →
    longOptions.lookup (String.ofList ((optionOf k).toList.take n)) = some (.setting k) ∨
      longOptions.lookup (String.ofList ((optionOf k).toList.take n)) = none ∧
        matching ((optionOf k).toList.take n) = [(optionOf k, .setting k)] := by
  decide +kernel

/-- Two hyphens lead an option, and no equals sign is in it. -/
theorem hyphens_of_option : ∀ k ∈ settings,
    (optionOf k).toList.take 2 = ['-', '-'] ∧ '=' ∉ (optionOf k).toList := by
  decide +kernel

/-- Whatever an option begins with stands for it, if it goes further than the hyphens. -/
theorem standsFor_of_begins {start : List Char} {k : Setting}
    (begins : start <+: (optionOf k).toList) (long : 2 < start.length) : StandsFor start k := by
  have taken : start = (optionOf k).toList.take start.length := List.prefix_iff_eq_take.mp begins
  obtain ⟨lead, unattached⟩ := hyphens_of_option k (mem_settings k)
  refine ⟨?_, fun attached => unattached (begins.subset attached), ?_⟩
  · match start, begins, long with
    | a :: b :: c :: rest, begins, _ =>
      obtain ⟨after, whole⟩ := begins
      rw [← whole] at lead
      obtain ⟨rfl, rfl⟩ : a = '-' ∧ b = '-' := by simpa using lead
      exact ⟨c, rest, rfl⟩
  · rw [taken]
    exact only_of_take k (mem_settings k) start.length begins.length_le long

/-! ## Cutting at the equals sign -/

/-- Up to the first equals sign there is none. -/
theorem ne_sign_of_unattached {start : List Char} (unattached : '=' ∉ start) :
    ∀ c ∈ start, (c != '=') = true := by
  intro c hc
  rw [bne_iff_ne]
  rintro rfl
  exact unattached hc

theorem splitAttached_of_attached {start : List Char} (value : List Char)
    (unattached : '=' ∉ start) :
    splitAttached (start ++ '=' :: value) = (start, some (String.ofList value)) := by
  have clear := ne_sign_of_unattached unattached
  have rest : (start ++ '=' :: value).dropWhile (· != '=') = '=' :: value := by
    rw [List.dropWhile_append_of_pos clear, List.dropWhile_cons_of_neg (by decide)]
  have front : (start ++ '=' :: value).takeWhile (· != '=') = start := by
    rw [List.takeWhile_append_of_pos clear, List.takeWhile_cons_of_neg (by decide),
      List.append_nil]
  rw [splitAttached, rest, front]

theorem splitAttached_of_unattached {start : List Char} (unattached : '=' ∉ start) :
    splitAttached start = (start, none) := by
  have rest : start.dropWhile (· != '=') = [] :=
    List.dropWhile_eq_nil_iff.mpr (ne_sign_of_unattached unattached)
  rw [splitAttached, rest]

/-! ## Understanding -/

variable {k : Setting} {start value : String}

/-- What an option is understood as is up to what is in front of the equals sign. -/
theorem understandLong_of_standsFor {text : String} {start : List Char} {attached : Option String}
    (cut : splitAttached text.toList = (start, attached)) (stands : StandsFor start k) :
    understandLong text = .ok (.option (.setting k) attached) := by
  rw [understandLong, cut]
  dsimp only
  obtain found | ⟨notFound, alone⟩ := stands.only
  · rw [found]
  · rw [notFound, alone]

/-- What goes on after two hyphens is understood as a long option. -/
theorem understand_of_hyphens {text : String} {rest : List Char}
    (hyphens : text.toList = '-' :: '-' :: rest) : understand text = understandLong text := by
  rw [understand, hyphens]
  rfl

/-- An option with its value attached. -/
theorem understand_attached (stands : StandsFor start.toList k) :
    understand (start ++ "=" ++ value) = .ok (.option (.setting k) (some value)) := by
  have text : (start ++ "=" ++ value).toList = start.toList ++ '=' :: value.toList := by
    simp
  obtain ⟨c, rest, hyphens⟩ := stands.hyphens
  rw [understand_of_hyphens (by rw [text, hyphens]; rfl)]
  apply understandLong_of_standsFor _ stands
  rw [text, splitAttached_of_attached _ stands.unattached, String.ofList_toList]

/-- An option without its value. -/
theorem understand_unattached (stands : StandsFor start.toList k) :
    understand start = .ok (.option (.setting k) none) := by
  obtain ⟨c, rest, hyphens⟩ := stands.hyphens
  rw [understand_of_hyphens hyphens]
  exact understandLong_of_standsFor (splitAttached_of_unattached stands.unattached) stands

/-- What does not begin with a hyphen is plain. -/
theorem understand_plain (plain : value.toList.head? ≠ some '-') :
    understand value = .ok (.plain value) := by
  rw [understand]
  split
  · rename_i hyphens
    exact absurd (by rw [hyphens]; rfl) plain
  · rename_i hyphen
    exact absurd (by rw [hyphen]; rfl) plain
  · rfl

/-- Arguments that begin with one that is understood. -/
theorem understandAll_cons {text : String} {argument : Argument} (rest : List String)
    (further : text ≠ "--") (understood : understand text = .ok argument) :
    understandAll (text :: rest) = (understandAll rest).map (argument :: ·) := by
  rw [understandAll, if_neg further, understood]
  cases understandAll rest <;> rfl

/-! ## Items -/

namespace Item

/-- What the arguments of an item are understood as. -/
def understood (i : Item) : List Argument :=
  if i.attached then [.option (.setting i.setting) (some i.value)]
  else [.option (.setting i.setting) none, .plain i.value]

theorem standsFor (i : Item) : StandsFor i.start.toList i.setting :=
  standsFor_of_begins i.begins i.long

/-- What follows an option is plain. -/
theorem plain_of_unattached {i : Item} (unattached : i.attached = false) :
    i.value.toList.head? ≠ some '-' := by
  have tellable := i.tellable
  rwa [unattached] at tellable

theorem value_ne_hyphens (i : Item) : i.value ≠ "--" := by
  cases attached : i.attached with
  | true =>
    have tellable := i.tellable
    rwa [attached] at tellable
  | false =>
    intro hyphens
    have plain := plain_of_unattached attached
    rw [hyphens] at plain
    exact plain rfl

end Item

/-- What goes on after two hyphens is not two hyphens. -/
theorem ne_hyphens_of_long {text : String} (long : 2 < text.toList.length) : text ≠ "--" := by
  rintro rfl
  exact absurd long (by decide)

/-- Arguments that begin with those of an item. -/
theorem understandAll_item (i : Item) (rest : List String) :
    understandAll (i.arguments ++ rest) = (understandAll rest).map (i.understood ++ ·) := by
  rw [Item.arguments, Item.understood]
  cases attached : i.attached with
  | true =>
    have long : 2 < (i.start ++ "=" ++ i.value).toList.length := by
      have := i.long
      simp only [String.toList_append, List.length_append]
      omega
    exact understandAll_cons rest (ne_hyphens_of_long long) (understand_attached i.standsFor)
  | false =>
    have plain := understand_plain (Item.plain_of_unattached attached)
    change understandAll (i.start :: i.value :: rest) = _
    rw [understandAll_cons _ (ne_hyphens_of_long i.long) (understand_unattached i.standsFor),
      understandAll_cons rest i.value_ne_hyphens plain]
    cases understandAll rest <;> rfl

/-- **A row of items is understood item by item.** -/
theorem understandAll_items (items : List Item) :
    understandAll (items.flatMap Item.arguments) = .ok (items.flatMap Item.understood) := by
  induction items with
  | nil => rfl
  | cons i items ih =>
    rw [List.flatMap_cons, understandAll_item, ih]
    rfl

end GroupOperator.CommandLine
