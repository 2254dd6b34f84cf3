import GroupOperator.Lifetime

/-!
# Contention for a lifetime

Many may want to end a lifetime at the same time.  Each of them takes the lock, looks at the flag
and, if it is down, writes the reason and raises the flag before leaving; between any two of these
steps others may take steps of theirs.  Readers take no lock: they see the lifetime as it is between
steps.

A run is given by the order in which the callers take their steps.  A step that cannot be taken,
because another caller holds the lock or because the call is over, changes nothing.
-/

namespace GroupOperator

/-- How far a call that ends a lifetime has come. -/
inductive CancelStage where
  /-- It has not got the lock. -/
  | outside
  /-- It has got the lock. -/
  | inside
  /-- It has found the flag down. -/
  | writing
  /-- It has written its reason. -/
  | raising
  /-- It has nothing left to do but to give the lock back. -/
  | leaving
  /-- It is over. -/
  | gone
  deriving DecidableEq, Repr

/-- A call that ends a lifetime. -/
structure CancelCall where
  /-- The reason it gives. -/
  reason : Reason
  /-- How far it has come. -/
  stage : CancelStage := .outside
  deriving DecidableEq, Repr

/-- A lifetime and those who want to end it. -/
structure Contention where
  /-- The lifetime. -/
  lifetime : Lifetime := {}
  /-- The caller that holds the lock. -/
  holder : Option Nat := none
  /-- The calls, by caller. -/
  calls : List CancelCall
  /-- The callers that got the lock so far, in order. -/
  entered : List Nat := []
  deriving DecidableEq, Repr

namespace Contention

/-- A caller's call comes to a stage. -/
def advance (c : Contention) (i : Nat) (call : CancelCall) (stage : CancelStage) : Contention :=
  { c with calls := c.calls.set i { call with stage } }

/-- The next step of a call. -/
def stepCall (c : Contention) (i : Nat) (call : CancelCall) : Contention :=
  match call.stage with
  | .outside =>
    if c.holder = none then
      { c.advance i call .inside with holder := some i, entered := c.entered ++ [i] }
    else c
  | .inside => c.advance i call (if c.lifetime.flag then .leaving else .writing)
  | .writing =>
    { c.advance i call .raising with lifetime := { c.lifetime with reason := call.reason } }
  | .raising => { c.advance i call .leaving with lifetime := { c.lifetime with flag := true } }
  | .leaving => { c.advance i call .gone with holder := none }
  | .gone => c

/-- The next step of a caller. -/
def step (c : Contention) (i : Nat) : Contention :=
  match c.calls[i]? with
  | some call => c.stepCall i call
  | none => c

/-- The steps of callers in the order given. -/
def run (c : Contention) (order : List Nat) : Contention :=
  order.foldl step c

/-- Callers with these reasons, before any of them has done anything. -/
def start (reasons : List Reason) : Contention :=
  { calls := reasons.map fun reason => { reason } }

/-! ## The flag only goes up -/

theorem flag_step {c : Contention} (i : Nat) (h : c.lifetime.flag = true) :
    (c.step i).lifetime.flag = true := by
  simp only [step]
  split
  · rename_i call _
    simp only [stepCall]
    split <;> try exact h
    · split <;> exact h
    · rfl
  · exact h

end Contention

end GroupOperator
