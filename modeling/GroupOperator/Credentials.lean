import GroupOperator.Action

/-!
# Credentials

Where the operator gets its access to the cluster from.  A file that is named is the only place
looked at; otherwise the cluster the operator runs in is asked first, and the customary file is
looked at when the operator does not run in one.
-/

namespace GroupOperator.Credentials

/-- What each place answers: nothing if the credentials were found there. -/
structure Places where
  /-- The cluster the operator runs in. -/
  cluster : Option Failure := none
  /-- Any file. -/
  file : Option Failure := none

/-- What a place answers. -/
def Places.answer (p : Places) : CredentialSource → Except Failure Unit
  | .cluster => match p.cluster with | some f => .error f | none => .ok ()
  | .file _ => match p.file with | some f => .error f | none => .ok ()

variable {σ : Type}

/-- A record of loading. -/
def record (message : String) : Record :=
  ⟨.info, .access, message, none⟩

/-- Asks a place, and tells of it if the credentials were found there. -/
def ask (p : Places) (source : CredentialSource) (message : String) : Action σ Unit := do
  .emit (.loading source)
  .ofExcept (p.answer source)
  .tell (record message)

/-- Looks in the places that come into question. -/
def search (p : Places) (kubeconfig : Value) : Action σ Unit := do
  if kubeconfig.isPresent then
    ask p (.file (some kubeconfig)) ("Loaded kubeconfig from " ++ kubeconfig.text)
  else
    match ← (ask p .cluster "Loaded in-cluster Kubernetes config").attempt with
    | .ok () => .done ()
    | .error (.credentials _) => ask p (.file none) "Loaded kubeconfig"
    | .error f => .raise f

/-- What a failure to load comes to: credentials of no use and what the operating system refuses are
faults of the configuration. -/
def explain : Failure → Failure
  | .credentials message | .system message =>
    .configuration ("Could not load Kubernetes config: " ++ message)
  | f => f

/-- Loads the credentials. -/
def load (p : Places) (kubeconfig : Value) : Action σ Unit := do
  match ← (search p kubeconfig).attempt with
  | .ok () => .done ()
  | .error f => .raise (explain f)

end GroupOperator.Credentials
