import GroupOperator.Number.Shortest

/-!
# Numbers

Numbers come in two kinds that stay apart: whole numbers, exact and of any size, and numbers of the
double format.  Three and three point zero compare equal and are still different values with
different texts.
-/

namespace GroupOperator

/-- A number as it was given. -/
inductive Number where
  /-- A whole number. -/
  | int (i : Int)
  /-- A number of the double format. -/
  | float (x : Binary64)
  deriving DecidableEq, Repr, Inhabited

namespace Number

/-- Whether the number is less than zero. -/
def isNegative : Number → Bool
  | .int i => i < 0
  | .float x => x.isNegative

/-- Whether the number is greater than zero. -/
def isPositive : Number → Bool
  | .int i => 0 < i
  | .float x => x.isPositive

/-- Whether the number is zero. -/
def isZero : Number → Bool
  | .int i => i = 0
  | .float x => x.isZero

/-- A number is less than zero, zero or greater than zero, unless it is no number. -/
theorem eq_nan_or_signed (n : Number) :
    n = .float .nan ∨ n.isNegative = true ∨ n.isZero = true ∨ n.isPositive = true := by
  cases n with
  | int i =>
    simp only [isNegative, isZero, isPositive, decide_eq_true_eq]
    omega
  | float x =>
    rcases x.eq_nan_or_signed with h | h | h | h
    · exact .inl (congrArg _ h)
    · exact .inr (.inl h)
    · exact .inr (.inr (.inl h))
    · exact .inr (.inr (.inr h))

end Number

end GroupOperator
