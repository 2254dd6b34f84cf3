import GroupOperator.Manifest

/-!
# Activities

What the operator does for one event is a program whose only contact with the world is the cluster's
API: it makes requests, one after the other, and keeps a record of what it did.  An `Activity` is
such a program as data, a tree that shows which request comes next after which answer.  Nothing is
said here about who answers; the same activity runs against a cluster in memory, against a list of
prepared answers, or step by step beside other activities.

An activity fails when it raises a failure, and `attempt` turns the failure of a part into a value.
-/

namespace GroupOperator

/-! ## Records -/

/-- How much a record matters. -/
inductive Level where
  /-- For those who look for a fault. -/
  | debug
  /-- The ordinary course of things. -/
  | info
  /-- Something to be looked at. -/
  | warning
  /-- Something went wrong. -/
  | error
  deriving DecidableEq, Repr

/-- The rank of a level: greater matters more. -/
def Level.rank : Level → Nat
  | .debug => 10
  | .info => 20
  | .warning => 30
  | .error => 40

/-- The name of a level. -/
def Level.name : Level → String
  | .debug => "DEBUG"
  | .info => "INFO"
  | .warning => "WARNING"
  | .error => "ERROR"

/-- The part of the operator that keeps a record. -/
inductive Channel where
  /-- The watch. -/
  | watch
  /-- The reconciler. -/
  | reconciler
  /-- The access to the cluster. -/
  | access
  /-- The startup. -/
  | startup
  deriving DecidableEq, Repr

/-- Something worth telling. -/
structure Record where
  /-- How much it matters. -/
  level : Level
  /-- Who tells it. -/
  channel : Channel
  /-- The text. -/
  message : String
  /-- The failure it is about, if it is kept with the record. -/
  cause : Option Failure := none
  deriving DecidableEq, Repr

/-! ## Requests -/

/-- What the cluster says about an object it created; each part may be missing. -/
structure Metadata where
  /-- The object's name. -/
  name : Value
  /-- Its namespace. -/
  namespaceName : Value
  /-- Its identifier. -/
  uid : Value
  deriving DecidableEq, Repr

/-- A request to the cluster's API. -/
inductive Request where
  /-- Create a workload in a namespace. -/
  | createWorkload (namespaceName : Value) (workload : Manifest.Workload)
  /-- Create a peer file in a namespace. -/
  | createPeerFile (namespaceName : Value) (file : Manifest.PeerFile)
  /-- Delete a workload, dealing with its dependents by a policy, if there is one. -/
  | deleteWorkload (name namespaceName policy : Value)
  deriving DecidableEq, Repr

/-- What the cluster answers if it does as requested. -/
abbrev Request.Answer : Request → Type
  | .createWorkload .. | .createPeerFile .. => Metadata
  | .deleteWorkload .. => Unit

/-- What comes back from a request: an answer or a failure. -/
abbrev Request.Reply (r : Request) : Type :=
  Except Failure r.Answer

/-! ## Programs -/

/-- A program that talks to the cluster. -/
inductive Activity (α : Type) where
  /-- It is over, with a result. -/
  | done (a : α)
  /-- It is over, with a failure. -/
  | raised (f : Failure)
  /-- It keeps a record and goes on. -/
  | note (r : Record) (next : Activity α)
  /-- It makes a request and goes on as the reply says. -/
  | request (r : Request) (next : r.Reply → Activity α)

namespace Activity

variable {α β : Type}

/-- Goes on with what the result says; a failure ends both. -/
def bind : Activity α → (α → Activity β) → Activity β
  | .done a, k => k a
  | .raised f, _ => .raised f
  | .note r next, k => .note r (next.bind k)
  | .request r next, k => .request r fun reply => (next reply).bind k

instance : Monad Activity where
  pure := .done
  bind := bind

/-- Keeps a record. -/
def tell (r : Record) : Activity Unit :=
  .note r (.done ())

/-- Makes a request; a failed reply is the outcome's failure. -/
def ask (r : Request) : Activity r.Answer :=
  .request r fun
    | .ok answer => .done answer
    | .error f => .raised f

/-- Takes a result that may be a failure. -/
def ofExcept : Except Failure α → Activity α
  | .ok a => .done a
  | .error f => .raised f

/-- Runs a part and hands over its failure instead of failing. -/
def attempt : Activity α → Activity (Except Failure α)
  | .done a => .done (.ok a)
  | .raised f => .done (.error f)
  | .note r next => .note r next.attempt
  | .request r next => .request r fun reply => (next reply).attempt

/-! ## Laws -/

@[simp] theorem pure_eq (a : α) : (pure a : Activity α) = .done a := rfl

@[simp] theorem bind_eq (p : Activity α) (k : α → Activity β) : p >>= k = p.bind k := rfl

@[simp] theorem bind_done (p : Activity α) : p.bind .done = p := by
  induction p with
  | done _ => rfl
  | raised _ => rfl
  | note r next ih => simp [bind, ih]
  | request r next ih => simp [bind, ih]

end Activity

end GroupOperator
