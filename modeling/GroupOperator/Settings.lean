import GroupOperator.Action
import GroupOperator.Number.Numeral
import GroupOperator.Text.Upper

/-!
# Settings

What can be set: which namespace is watched, where workloads are created, how often everything is
redelivered, what is told and where the credentials lie.  Every setting has a default, which the
environment can replace, and what is given on top of that replaces both.

A setting is kept as it is given, whatever kind of value that is.  The environment gives texts, and
a number for the period; what a setting must be is the business of those who use it.
-/

namespace GroupOperator

/-- One of the settings. -/
inductive Setting where
  /-- The file the credentials are read from. -/
  | kubeconfig
  /-- The namespace that is watched. -/
  | namespaceName
  /-- The namespace in which workloads and peer files are created. -/
  | workloadNamespace
  /-- The seconds between redeliveries. -/
  | resyncPeriod
  /-- The least level of what is told. -/
  | logLevel
  deriving DecidableEq, Repr

/-- The settings. -/
structure Settings where
  /-- The namespace that is watched; all of them if it is empty. -/
  namespaceName : Value
  /-- The namespace in which workloads and peer files are created. -/
  workloadNamespace : Value
  /-- The seconds between redeliveries; zero for none. -/
  resyncPeriod : Value
  /-- The name of the least level that is told. -/
  logLevel : Value
  /-- The file the credentials are read from, if one is named. -/
  kubeconfig : Value
  deriving DecidableEq, Repr

/-! ## The environment -/

/-- Named texts that surround the program. -/
abbrev Environment := List (String × String)

/-- The name under which the environment holds a setting. -/
def Setting.variableName : Setting → String
  | .kubeconfig => "KUBECONFIG"
  | .namespaceName => "HABITAT_NAMESPACE"
  | .workloadNamespace => "HABITAT_WORKLOAD_NAMESPACE"
  | .resyncPeriod => "HABITAT_RESYNC_PERIOD"
  | .logLevel => "HABITAT_LOG_LEVEL"

/-- What the environment holds for a setting. -/
def Environment.get? (env : Environment) (s : Setting) : Option String :=
  env.lookup s.variableName

namespace Settings

/-- The period of redelivery when none is set: a minute. -/
def defaultPeriod : Binary64 :=
  .ofRatio false 60 1

/-- The period that a text sets; a text that is no number sets none. -/
def periodOf (text : Option String) : Binary64 :=
  (text.bind Numeral.decimal?).getD defaultPeriod

/-- The settings of an environment.  An empty file name names no file. -/
def ofEnvironment (env : Environment) : Settings where
  namespaceName := .str ((env.get? .namespaceName).getD "")
  workloadNamespace := .str ((env.get? .workloadNamespace).getD "default")
  resyncPeriod := .float (periodOf (env.get? .resyncPeriod))
  logLevel := .str ((env.get? .logLevel).getD "INFO")
  kubeconfig := Value.ofOption (((env.get? .kubeconfig).filter (· ≠ "")).map .str)

/-! ## What is given on top -/

/-- Values for some of the settings. -/
structure Given where
  /-- The namespace that is watched. -/
  namespaceName : Option Value := none
  /-- The namespace in which workloads and peer files are created. -/
  workloadNamespace : Option Value := none
  /-- The seconds between redeliveries. -/
  resyncPeriod : Option Value := none
  /-- The name of the least level that is told. -/
  logLevel : Option Value := none
  /-- The file the credentials are read from. -/
  kubeconfig : Option Value := none
  deriving DecidableEq, Repr

/-- What is given with a value for one more setting, which replaces a value given before. -/
def Given.set (g : Given) : Setting → Value → Given
  | .kubeconfig, v => { g with kubeconfig := some v }
  | .namespaceName, v => { g with namespaceName := some v }
  | .workloadNamespace, v => { g with workloadNamespace := some v }
  | .resyncPeriod, v => { g with resyncPeriod := some v }
  | .logLevel, v => { g with logLevel := some v }

/-- The settings with what is given in place of what they held. -/
def Given.over (g : Given) (s : Settings) : Settings where
  namespaceName := g.namespaceName.getD s.namespaceName
  workloadNamespace := g.workloadNamespace.getD s.workloadNamespace
  resyncPeriod := g.resyncPeriod.getD s.resyncPeriod
  logLevel := g.logLevel.getD s.logLevel
  kubeconfig := g.kubeconfig.getD s.kubeconfig

/-- Nothing given changes nothing. -/
@[simp] theorem Given.over_nothing (s : Settings) : ({} : Given).over s = s := rfl

end Settings

/-! ## Levels -/

/-- The names of levels and their ranks. -/
def levelNames : List (String × Nat) := [
  ("CRITICAL", 50), ("FATAL", 50), (Level.error.name, Level.error.rank),
  ("WARN", Level.warning.rank), (Level.warning.name, Level.warning.rank),
  (Level.info.name, Level.info.rank), (Level.debug.name, Level.debug.rank), ("NOTSET", 0)]

/-- The rank of the level of that name. -/
def rankOf? (name : String) : Option Nat :=
  levelNames.lookup name

end GroupOperator
