import GroupOperator.CommandLine

/-!
# Items of a command line

A command line that does nothing but give settings is a row of items, each an option with a value.
There is some freedom in writing one: the option may be cut short to any beginning that goes further
than the hyphens, and the value may be attached to it with an equals sign or follow as an argument
of its own.  What is attached may be anything but two hyphens; what follows must not begin with a
hyphen.

What an item means does not depend on how it is written.  It means nothing if its value is no number
where a number is asked for, or no level where a level is.
-/

namespace GroupOperator.CommandLine

/-- Whether a value can be told from an option, attached to one or not. -/
def IsTellable (attached : Bool) (value : String) : Prop :=
  match attached with
  | true => value ≠ "--"
  | false => value.toList.head? ≠ some '-'

instance (attached : Bool) (value : String) : Decidable (IsTellable attached value) :=
  match attached with
  | true => inferInstanceAs (Decidable (value ≠ "--"))
  | false => inferInstanceAs (Decidable (value.toList.head? ≠ some '-'))

/-- An option with a value, as it is written. -/
structure Item where
  /-- The setting that the option gives. -/
  setting : Setting
  /-- As much of the option as is written. -/
  start : String
  /-- The value. -/
  value : String
  /-- Whether the value is attached to the option. -/
  attached : Bool
  /-- The option begins with what is written of it. -/
  begins : start.toList <+: (optionOf setting).toList
  /-- More is written of it than the hyphens. -/
  long : 2 < start.toList.length
  /-- The value can be told from an option. -/
  tellable : IsTellable attached value

namespace Item

/-- The arguments that an item is written as. -/
def arguments (i : Item) : List String :=
  if i.attached then [i.start ++ "=" ++ i.value] else [i.start, i.value]

/-- What an item gives its setting: a text as it is, the number that it denotes, or the name of a
level in upper case. -/
def meaning? (i : Item) : Option Value :=
  match i.setting with
  | .kubeconfig | .namespaceName | .workloadNamespace => some (.str i.value)
  | .resyncPeriod => (Numeral.decimal? i.value).map .float
  | .logLevel =>
    if Text.upperCase i.value ∈ levelChoices then some (.str (Text.upperCase i.value)) else none

/-- The last item of a row that is about a setting. -/
def last? (k : Setting) (items : List Item) : Option Item :=
  (items.filter fun i => i.setting = k).getLast?

end Item

end GroupOperator.CommandLine
