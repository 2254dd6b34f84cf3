import GroupOperator.CommandLine.Argument
import GroupOperator.Text.Wrap

/-!
# Usage and help

What the program says about its own command line: a summary of the options, and a page that explains
each of them.  The page is 78 columns wide; explanations start at column 24, beside a short option
and below a long one.
-/

namespace GroupOperator.CommandLine

/-- The program's name. -/
def programName : String := "habitat-operator"

/-- The names of levels that can be chosen. -/
def levelChoices : List String := ["DEBUG", "INFO", "WARNING", "ERROR"]

/-- What stands for the value of an option. -/
def placeholder : Setting → String
  | .kubeconfig => "KUBECONFIG"
  | .namespaceName => "NAMESPACE"
  | .workloadNamespace => "WORKLOAD_NAMESPACE"
  | .resyncPeriod => "RESYNC_PERIOD"
  | .logLevel => "\x7b" ++ ",".intercalate levelChoices ++ "\x7d"

/-- An option with what stands for its value. -/
def invocation (s : Setting) : String :=
  optionOf s ++ " " ++ placeholder s

/-- The summary of the options, each line ended. -/
def usage : String :=
  "usage: " ++ programName ++ " [-h] [" ++ invocation .kubeconfig ++ "] [" ++
    invocation .namespaceName ++ "]\n" ++
  "                        [" ++ invocation .workloadNamespace ++ "]\n" ++
  "                        [" ++ invocation .resyncPeriod ++ "]\n" ++
  "                        [" ++ invocation .logLevel ++ "]\n"

/-- What an option does, and its default. -/
def explanation (defaults : Settings) : Setting → String
  | .kubeconfig => "Path to a kubeconfig file (default: in-cluster config, then ~/.kube/config)"
  | .namespaceName => "Namespace to watch for ServiceGroups (default: all namespaces)"
  | .workloadNamespace =>
    "Namespace for the Deployments and ConfigMaps (default: " ++
      defaults.workloadNamespace.text ++ ")"
  | .resyncPeriod =>
    "Seconds between full resyncs, 0 to disable (default: " ++ defaults.resyncPeriod.text ++ ")"
  | .logLevel => "Log level (default: " ++ defaults.logLevel.text ++ ")"

/-! ## The page -/

/-- Puts one blank for every run of plain white space. -/
def squeeze : List Char → List Char
  | [] => []
  | c :: rest =>
    if Text.isWordBreak c then
      if (rest.head?.any Text.isWordBreak) then squeeze rest else ' ' :: squeeze rest
    else c :: squeeze rest

/-- Where explanations start. -/
def helpColumn : Nat := 24

/-- How wide explanations are. -/
def helpWidth : Nat := 54

/-- The lines of an explanation. -/
def explanationLines (text : String) : List String :=
  (Text.wrap helpWidth (Text.trim (squeeze text.toList))).map String.ofList

/-- So many blanks. -/
def spaces (n : Nat) : String :=
  String.ofList (List.replicate n ' ')

/-- One option on the page. -/
def entry (head explanation : String) : List String :=
  let indented := explanationLines explanation |>.map (spaces helpColumn ++ ·)
  if head.length ≤ helpColumn - 4 then
    match explanationLines explanation with
    | first :: _ =>
      ("  " ++ head ++ spaces (helpColumn - 2 - head.length) ++ first) :: indented.drop 1
    | [] => ["  " ++ head]
  else ("  " ++ head) :: indented

/-- The page. -/
def help (defaults : Settings) : String :=
  let entries :=
    entry "-h, --help" "show this help message and exit" ++
      settings.flatMap fun s => entry (invocation s) (explanation defaults s)
  usage ++ "\nHabitat operator: materializes ServiceGroups as Deployments\n\noptions:\n" ++
    "\n".intercalate entries ++ "\n"

end GroupOperator.CommandLine
