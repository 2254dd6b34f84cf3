import GroupOperator.Lifetime.Contention

/-!
# Readers of a contended lifetime

While some contend to end a lifetime, anybody may look at it.  Readers take no lock: they see the
lifetime as it stands between two steps of the callers, half written or not.  A reader may ask
whether the lifetime is over, read the reason, or wait.  A wait comes back when the flag is up; one
that was given a time may also come back because the time is over, whatever the flag says by then.

What readers come to see is kept in the order in which they see it.  It does not matter who a reader
is, nor whether he is one of the callers as well, so a reader may do anything in any order.
-/

namespace GroupOperator

/-- What a reader comes to see. -/
inductive Sight where
  /-- Whether the lifetime is over. -/
  | over (yes : Bool)
  /-- Why it ended. -/
  | reason (r : Reason)
  /-- A wait has come back, because the flag is up or else because the time is over. -/
  | waited (yes : Bool)
  deriving DecidableEq, Repr

/-- Whether a reader can tell from a sight that the lifetime is over. -/
def Sight.tellsEnd : Sight → Bool
  | .over yes | .waited yes => yes
  | .reason _ => false

/-- A step of a caller or of a reader. -/
inductive ObservationStep where
  /-- A caller goes on with its call. -/
  | call (caller : Nat)
  /-- A reader asks whether the lifetime is over. -/
  | askOver (reader : Nat)
  /-- A reader reads the reason. -/
  | askReason (reader : Nat)
  /-- A reader's wait comes back if the flag is up. -/
  | wake (reader : Nat)
  /-- A reader's wait comes back because its time is over. -/
  | timeOut (reader : Nat)
  deriving DecidableEq, Repr

/-- A contended lifetime, and what readers have seen of it. -/
structure Observation where
  /-- The lifetime, and those who want to end it. -/
  contention : Contention
  /-- The sights so far, each with its reader. -/
  sights : List (Nat × Sight) := []
  deriving DecidableEq, Repr

namespace Observation

/-- The lifetime as it stands. -/
def lifetime (o : Observation) : Lifetime :=
  o.contention.lifetime

/-- A reader comes to see something. -/
def see (o : Observation) (reader : Nat) (sight : Sight) : Observation :=
  { o with sights := o.sights ++ [(reader, sight)] }

/-- One step. -/
def step (o : Observation) : ObservationStep → Observation
  | .call caller => { o with contention := o.contention.step caller }
  | .askOver reader => o.see reader (.over o.lifetime.isOver)
  | .askReason reader => o.see reader (.reason o.lifetime.reason)
  | .wake reader => if o.lifetime.isOver then o.see reader (.waited true) else o
  | .timeOut reader => o.see reader (.waited false)

/-- Steps in the order given. -/
def run (o : Observation) (steps : List ObservationStep) : Observation :=
  steps.foldl step o

/-- Callers with these reasons, before anybody has done or seen anything. -/
def start (reasons : List Reason) : Observation :=
  { contention := .start reasons }

end Observation

end GroupOperator
