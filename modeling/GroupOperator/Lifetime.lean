import GroupOperator.Failure

/-!
# Lifetimes

A lifetime ends once, and the first to end it says why.  Ending it again changes nothing.

The end shows in a flag that others may wait for.  The flag can also be raised and lowered by hand,
which says nothing about a reason.
-/

namespace GroupOperator

/-- Why a lifetime ended. -/
inductive Reason where
  /-- A value that whoever ended it gave; nothing, if it ended gracefully. -/
  | value (v : Value)
  /-- A failure. -/
  | failure (f : Failure)
  deriving DecidableEq, Repr

namespace Reason

/-- The reason that is none. -/
def graceful : Reason := .value .null

/-- The text of a reason. -/
def text : Reason → String
  | .value v => v.text
  | .failure f => f.message

end Reason

/-- A lifetime. -/
structure Lifetime where
  /-- Whether the flag is up. -/
  flag : Bool := false
  /-- Why it ended. -/
  reason : Reason := .graceful
  deriving DecidableEq, Repr

namespace Lifetime

/-- Whether the lifetime is over. -/
def isOver (l : Lifetime) : Bool := l.flag

/-- Ends the lifetime, unless it is over. -/
def cancel (r : Reason) (l : Lifetime) : Lifetime :=
  if l.flag then l else ⟨true, r⟩

/-- Raises the flag by hand. -/
def raiseFlag (l : Lifetime) : Lifetime := { l with flag := true }

/-- Lowers the flag by hand. -/
def lowerFlag (l : Lifetime) : Lifetime := { l with flag := false }

/-- The lifetime that was first ended for a reason, or that nobody has ended. -/
def endedFor : Option Reason → Lifetime
  | some r => ⟨true, r⟩
  | none => {}

/-! ## The first reason stays -/

@[simp] theorem isOver_cancel (r : Reason) (l : Lifetime) : (l.cancel r).isOver = true := by
  cases h : l.flag <;> simp [cancel, isOver, h]

theorem cancel_of_isOver {l : Lifetime} (h : l.isOver = true) (r : Reason) : l.cancel r = l := by
  simp_all [cancel, isOver]

@[simp] theorem cancel_cancel (r s : Reason) (l : Lifetime) :
    (l.cancel r).cancel s = l.cancel r :=
  cancel_of_isOver (isOver_cancel r l) s

@[simp] theorem cancel_endedFor (first : Option Reason) (r : Reason) :
    (endedFor first).cancel r = ⟨true, first.getD r⟩ := by
  cases first <;> rfl

@[simp] theorem isOver_endedFor (first : Option Reason) :
    (endedFor first).isOver = first.isSome := by
  cases first <;> rfl

end Lifetime

end GroupOperator
