/-!
# Classes of characters

A property of characters is given by its *edges*: the sorted code points at which it changes,
counted from "does not hold" at zero.  A code point has the property exactly when an odd number of
edges lie at or below it, so a class of hundreds of ranges is one list of numbers and membership is
one walk along it.
-/

namespace GroupOperator.Text

/-- A set of characters, written as the sorted code points where membership changes. -/
structure CharClass where
  /-- The code points that differ from their predecessor in membership, in increasing order. -/
  edges : List Nat

namespace CharClass

/-- Whether `n` lies inside, when `state` is the membership just before the first edge. -/
def inside : List Nat → Bool → Nat → Bool
  | [], state, _ => state
  | edge :: edges, state, n => if n < edge then state else inside edges (!state) n

/-- Membership of a character. -/
def contains (k : CharClass) (c : Char) : Bool :=
  inside k.edges false c.toNat

/-! ## Reading a table

The two steps of the walk; together they decide every closed membership question. -/

theorem inside_of_lt {n edge : Nat} (edges : List Nat) (state : Bool) (h : n < edge) :
    inside (edge :: edges) state n = state := by
  simp [inside, h]

theorem inside_of_le {n edge : Nat} (edges : List Nat) (state : Bool) (h : edge ≤ n) :
    inside (edge :: edges) state n = inside edges (!state) n := by
  simp [inside, Nat.not_lt.mpr h]

/-- The first two edges of a class are the ends of its first range. -/
theorem inside_range {n first next : Nat} (edges : List Nat) (h : first ≤ next) :
    inside (first :: next :: edges) false n = true ↔
      (first ≤ n ∧ n < next) ∨ (next ≤ n ∧ inside edges false n = true) := by
  by_cases before : n < first
  · rw [inside_of_lt _ _ before]
    simp only [Bool.false_eq_true, false_iff]
    omega
  · rw [inside_of_le _ _ (Nat.not_lt.mp before)]
    by_cases within : n < next
    · rw [inside_of_lt _ _ within]
      simp only [Bool.not_false, true_iff]
      omega
    · rw [inside_of_le _ _ (Nat.not_lt.mp within)]
      simp [within, Nat.not_lt.mp within]

end CharClass

end GroupOperator.Text
