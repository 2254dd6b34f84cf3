import GroupOperator.CommandLine.Usage

/-!
# The command line

The arguments are understood first, all of them, and then followed one by one: each option replaces
what was given for its setting before, so the last one counts, and a bad value is an error even if a
good one comes later.  Asking for help ends the matter at once.  Arguments that belong to no option
are complained about when everything else is in order.

* A text given to an option is interpreted: a period is read as a number, and the name of a level is
  put in upper case.  A level must also be one of the choices.
* Two hyphens attached to an option stand for nothing at all, and give it the empty sequence.
* A setting that no option gives keeps its default.  If that is a text, it is interpreted as well,
  but a level is not checked against the choices then.
-/

namespace GroupOperator.CommandLine

/-! ## Ways not to get settings -/

/-- What is wrong with a command line. -/
inductive UsageError where
  /-- An argument that several options begin with. -/
  | ambiguous (a : Ambiguity)
  /-- An option without its value. -/
  | missingValue (s : Setting)
  /-- A value attached to the option for help. -/
  | needlessValue (value : String)
  /-- A period that is no number. -/
  | notANumber (value : String)
  /-- A level that cannot be chosen. -/
  | notALevel (name : String)
  /-- Arguments that belong to no option. -/
  | unrecognized (arguments : List String)
  deriving DecidableEq, Repr

/-- The text of an error. -/
def UsageError.message : UsageError → String
  | .ambiguous a =>
    "ambiguous option: " ++ a.text ++ " could match " ++ ", ".intercalate a.options
  | .missingValue s => "argument " ++ optionOf s ++ ": expected one argument"
  | .needlessValue value =>
    "argument -h/--help: ignored explicit argument " ++ Text.quoted value
  | .notANumber value =>
    "argument " ++ optionOf .resyncPeriod ++ ": invalid float value: " ++ Text.quoted value
  | .notALevel name =>
    "argument " ++ optionOf .logLevel ++ ": invalid choice: " ++ Text.quoted name ++
      " (choose from " ++ ", ".intercalate (levelChoices.map Text.quoted) ++ ")"
  | .unrecognized arguments => "unrecognized arguments: " ++ " ".intercalate arguments

/-- Why a command line gives no settings. -/
inductive Exit where
  /-- It asks for help. -/
  | help
  /-- Something is wrong with it. -/
  | usage (e : UsageError)
  deriving DecidableEq, Repr

/-! ## Following the arguments -/

/-- What was given so far, and the arguments that belong to no option, last first. -/
structure Draft where
  /-- The values given. -/
  given : Settings.Given := {}
  /-- The arguments left over. -/
  leftover : List String := []
  deriving DecidableEq, Repr

/-- What a text means for a setting. -/
def interpret (s : Setting) (text : String) : Except Exit Value :=
  match s with
  | .kubeconfig | .namespaceName | .workloadNamespace => .ok (.str text)
  | .resyncPeriod =>
    match Numeral.decimal? text with
    | some x => .ok (.float x)
    | none => .error (.usage (.notANumber text))
  | .logLevel => .ok (.str (Text.upperCase text))

/-- What a text given to an option means: a level must be one of the choices. -/
def choose (s : Setting) (text : String) : Except Exit Value :=
  match s with
  | .logLevel =>
    let name := Text.upperCase text
    if levelChoices.contains name then .ok (.str name) else .error (.usage (.notALevel name))
  | s => interpret s text

/-- Gives a setting a value. -/
def assign (s : Setting) (text : String) (d : Draft) : Except Exit Draft :=
  if text = "--" then .ok { d with given := d.given.set s (.list []) }
  else (choose s text).map fun v => { d with given := d.given.set s v }

/-- What is attached to the short option for help: more of the same, or something needless. -/
def shortHelpExit : List Char → Exit
  | 'h' :: [] => .help
  | 'h' :: rest => shortHelpExit rest
  | cs => .usage (.needlessValue (String.ofList cs))

/-- The end that asking for help comes to, given what is attached. -/
def helpExit : Argument → Exit
  | .shortHelp (some attached) => shortHelpExit attached.toList
  | .option _ (some attached) => .usage (.needlessValue attached)
  | _ => .help

/-- Follows the arguments. -/
def follow : List Argument → Draft → Except Exit Draft
  | [], d => .ok d
  | .plain text :: rest, d => follow rest { d with leftover := text :: d.leftover }
  | .separator :: rest, d => follow rest { d with leftover := "--" :: d.leftover }
  | .unknown text :: rest, d => follow rest { d with leftover := text :: d.leftover }
  | .option (.setting s) (some value) :: rest, d => assign s value d >>= follow rest
  | .option (.setting s) none :: .plain value :: rest, d => assign s value d >>= follow rest
  | .option (.setting s) none :: _, _ => .error (.usage (.missingValue s))
  | argument :: _, _ => .error (helpExit argument)

/-- What a default comes to. -/
def interpretDefault (s : Setting) : Value → Except Exit Value
  | .str text => interpret s text
  | v => .ok v

/-- What a setting comes to, given a value for it or none. -/
def settle (s : Setting) (default : Value) : Option Value → Except Exit Value
  | some v => .ok v
  | none => interpretDefault s default

/-- The settings that the values given and the defaults make. -/
def settleAll (defaults : Settings) (g : Settings.Given) : Except Exit Settings := do
  let kubeconfig ← settle .kubeconfig defaults.kubeconfig g.kubeconfig
  let namespaceName ← settle .namespaceName defaults.namespaceName g.namespaceName
  let workloadNamespace ← settle .workloadNamespace defaults.workloadNamespace g.workloadNamespace
  let resyncPeriod ← settle .resyncPeriod defaults.resyncPeriod g.resyncPeriod
  let logLevel ← settle .logLevel defaults.logLevel g.logLevel
  return { namespaceName, workloadNamespace, resyncPeriod, logLevel, kubeconfig }

/-- Reads a command line. -/
def parse (defaults : Settings) (argv : List String) : Except Exit Settings := do
  let arguments ← (understandAll argv).mapError fun a => .usage (.ambiguous a)
  let draft ← follow arguments {}
  let settings ← settleAll defaults draft.given
  if draft.leftover.isEmpty then .ok settings
  else .error (.usage (.unrecognized draft.leftover.reverse))

/-! ## What is printed -/

/-- How the program ends at its command line: a status and what is printed on the way. -/
structure Printed where
  /-- The exit status. -/
  status : Nat
  /-- What goes to standard output. -/
  output : String
  /-- What goes to standard error. -/
  complaint : String
  deriving DecidableEq, Repr

/-- What an exit prints. -/
def Exit.printed (defaults : Settings) : Exit → Printed
  | .help => ⟨0, CommandLine.help defaults, ""⟩
  | .usage e => ⟨2, "", CommandLine.usage ++ programName ++ ": error: " ++ e.message ++ "\n"⟩

end GroupOperator.CommandLine
