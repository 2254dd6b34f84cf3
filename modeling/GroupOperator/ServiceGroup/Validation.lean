import GroupOperator.ServiceGroup
import GroupOperator.Text.Blank

/-!
# Validation

Which service groups may be materialized.  The fields are judged in a fixed order, name, namespace,
image, count, and the first that fails is named.

A truth value is no replica count, though it would compare equal to one, and neither is a floating
number without a fraction.
-/

namespace GroupOperator.ServiceGroup

/-- Why a group may not be materialized. -/
inductive Rejection where
  /-- It has no name. -/
  | noName
  /-- It has no namespace. -/
  | noNamespace
  /-- Its image is no text, or a blank one. -/
  | noImage
  /-- Its count is no whole number. -/
  | countNotWhole (count : Value)
  /-- Its count is below zero. -/
  | countNegative (count : Int)
  /-- Its count is beyond the greatest number of replicas. -/
  | countTooGreat (count : Int)
  deriving DecidableEq, Repr

namespace Rejection

/-- The field that is at fault. -/
def key : Rejection → String
  | .noName => "metadata.name"
  | .noNamespace => "metadata.namespace"
  | .noImage => "spec.image"
  | .countNotWhole _ | .countNegative _ | .countTooGreat _ => "spec.count"

/-- What is wrong with it. -/
def detail : Rejection → String
  | .noName => "name must not be empty"
  | .noNamespace => "namespace must not be empty"
  | .noImage => "image must be a non-empty string"
  | .countNotWhole count => "count must be an integer, got " ++ count.quoted
  | .countNegative count => "count must be non-negative, got " ++ toString count
  | .countTooGreat count =>
    "count must not exceed " ++ toString Schema.maxReplicas ++ ", got " ++ toString count

/-- A rejection as a failure. -/
def failure (r : Rejection) : Failure :=
  .invalid (.str r.key) (.str r.detail)

end Rejection

/-- Whether an image is a text that shows something. -/
def isImage : Value → Bool
  | .str s => !Text.isAllBlank s.toList
  | _ => false

/-- What is wrong with a count, if anything is. -/
def rejectCount? : Value → Option Rejection
  | .int n =>
    if n < 0 then some (.countNegative n)
    else if Schema.maxReplicas < n then some (.countTooGreat n)
    else none
  | v => some (.countNotWhole v)

/-- The first thing that is wrong with a group, if anything is. -/
def reject? (g : ServiceGroup) : Option Rejection :=
  if !g.name.isPresent then some .noName
  else if !g.namespaceName.isPresent then some .noNamespace
  else if !isImage g.image then some .noImage
  else rejectCount? g.count

/-- A group that nothing is wrong with. -/
def IsValid (g : ServiceGroup) : Prop :=
  g.reject? = none

instance (g : ServiceGroup) : Decidable g.IsValid :=
  inferInstanceAs (Decidable (_ = _))

/-! ## What validity says -/

theorem rejectCount?_eq_none_iff {v : Value} :
    rejectCount? v = none ↔ ∃ n : Int, v = .int n ∧ 0 ≤ n ∧ n ≤ Schema.maxReplicas := by
  cases v with
  | int n =>
    simp only [rejectCount?, Value.int.injEq]
    constructor
    · intro h
      split at h
      · cases h
      · split at h
        · cases h
        · exact ⟨n, rfl, by omega, by omega⟩
    · rintro ⟨m, rfl, low, high⟩
      rw [if_neg (by omega), if_neg (by omega)]
  | _ => simp [rejectCount?]

/-- A group is valid exactly when all four of its fields are. -/
theorem isValid_iff {g : ServiceGroup} :
    g.IsValid ↔ g.name.isPresent = true ∧ g.namespaceName.isPresent = true ∧
      isImage g.image = true ∧ ∃ n : Int, g.count = .int n ∧ 0 ≤ n ∧ n ≤ Schema.maxReplicas := by
  simp only [IsValid, reject?]
  cases g.name.isPresent <;> cases g.namespaceName.isPresent <;> cases isImage g.image <;>
    simp [rejectCount?_eq_none_iff]

end GroupOperator.ServiceGroup
