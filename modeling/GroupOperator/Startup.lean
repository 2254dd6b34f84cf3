import GroupOperator.CommandLine
import GroupOperator.Credentials
import GroupOperator.Operator

/-!
# Startup

The whole program, from its command line to its exit status.  The command line may end it at once.
Otherwise credentials are loaded, the operator runs, and the status says whether it was stopped
gracefully: zero if its lifetime was ended without a reason, one in every other case and when it
could not start.

Records below the level set are not told.
-/

namespace GroupOperator.Startup

/-- How the program ends. -/
inductive Ending where
  /-- At the command line, with what that prints. -/
  | printed (p : CommandLine.Printed)
  /-- With an exit status. -/
  | status (n : Nat)
  deriving DecidableEq, Repr

/-- The exit status of an ending. -/
def Ending.exitStatus : Ending → Nat
  | .printed p => p.status
  | .status n => n

/-- A record of the startup. -/
def record (message : String) : Record :=
  ⟨.error, .startup, message, none⟩

/-- The rank that a setting of the level comes to: that of the level of that name, or a rank given
as a whole number, and where nothing is set that of a warning. -/
def rankOf : Value → Except Failure Nat
  | .null => .ok Level.warning.rank
  | .bool b => .ok (if b then 1 else 0)
  | .int i => .ok i.toNat
  | .str name =>
    match rankOf? name with
    | some rank => .ok rank
    | none => .error (.badValue ("Unknown level: " ++ Text.quoted name))
  | v => .error (.badType ("Level not an integer or a valid string: " ++ v.quoted))

variable {σ : Type}

/-- Leaves out the records below a rank. -/
def audible (rank : Nat) (c : Chronicle) : Chronicle :=
  c.filter fun
    | .told r => rank ≤ r.level.rank
    | _ => true

/-- Does something with only the records of some rank or more being told. -/
def telling {α : Type} (rank : Nat) (p : Action σ α) : Action σ α :=
  fun s =>
    let outcome := p s
    { outcome with chronicle := audible rank outcome.chronicle }

/-- Loads the credentials and checks the settings. -/
def prepare (places : Credentials.Places) (s : Settings) : Action (Subscription σ) Unit := do
  Credentials.load places s.kubeconfig
  match Operator.misconfiguration? true s with
  | some m => .raise m.failure
  | none => .done ()

/-- What the reason for the end of the operator's lifetime comes to. -/
def conclude (reason : Reason) : Action (Subscription σ) Ending := do
  if reason = .graceful then return .status 0
  else
    .tell (record ("Operator stopped: " ++ reason.text))
    return .status 1

/-- Makes the preparations, and then runs the operator. -/
def operateBy (s : Settings) (places : Credentials.Places)
    (run : Action (Subscription σ) Reason) : Action (Subscription σ) Ending := do
  match ← (prepare places s).attempt with
  | .error (.configuration message) => do
    .tell (record ("Could not start operator: " ++ message))
    return .status 1
  | .error f => .raise f
  | .ok () => do
    match ← run.attempt with
    | .error (.call ..) => return .status 1
    | .error f => .raise f
    | .ok reason => conclude reason

/-- Runs the operator with settings. -/
def operate (s : Settings) (places : Credentials.Places) (answer : Answering σ)
    (script : List Happening) : Action (Subscription σ) Ending :=
  operateBy s places (Operator.run s answer script)

/-- Runs the operator with settings, the sides of its subscription taking their turns as given. -/
def operateInTurns (s : Settings) (places : Credentials.Places) (answer : Answering σ)
    (script : List Happening) (turns : List Turn) : Action (Subscription σ) Ending :=
  operateBy s places (Operator.runInTurns s answer script turns)

/-- Reads the command line, and goes on with the settings that it gives. -/
def programBy (env : Environment) (argv : List String)
    (work : Settings → Action (Subscription σ) Ending) : Action (Subscription σ) Ending := do
  let defaults := Settings.ofEnvironment env
  match CommandLine.parse defaults argv with
  | .error exit => return .printed (exit.printed defaults)
  | .ok s => do
    let rank ← .ofExcept (rankOf s.logLevel)
    telling rank (work s)

/-- The program. -/
def program (env : Environment) (argv : List String) (places : Credentials.Places)
    (answer : Answering σ) (script : List Happening) : Action (Subscription σ) Ending :=
  programBy env argv fun s => operate s places answer script

/-- The program, the sides of its subscription taking their turns as given. -/
def programInTurns (env : Environment) (argv : List String) (places : Credentials.Places)
    (answer : Answering σ) (script : List Happening) (turns : List Turn) :
    Action (Subscription σ) Ending :=
  programBy env argv fun s => operateInTurns s places answer script turns

end GroupOperator.Startup
