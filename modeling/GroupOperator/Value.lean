import GroupOperator.Number
import GroupOperator.Text.Quoted

/-!
# Values

The untyped data that objects of the cluster are made of.  A field of such an object is kept as it
was found, whatever its type, until something asks for more.

Four views of a value matter to the operator: whether it counts as *present*, which *number* it
amounts to, how it reads in a message, and which other values it is *equal* to, where a truth value,
a whole number and a floating number of the same size are one.
-/

namespace GroupOperator

/-- A value of a document. -/
inductive Value where
  /-- Nothing. -/
  | null
  /-- A truth value. -/
  | bool (b : Bool)
  /-- A whole number. -/
  | int (i : Int)
  /-- A floating number. -/
  | float (x : Binary64)
  /-- A text. -/
  | str (s : String)
  /-- A sequence. -/
  | list (items : List Value)
  /-- Named members, in order. -/
  | object (members : List (String × Value))
  deriving Repr, Inhabited

namespace Value

/-! ## Equality of data -/

mutual

/-- Whether two values are the same data. -/
def same : Value → Value → Bool
  | .null, .null => true
  | .bool a, .bool b => a == b
  | .int a, .int b => a == b
  | .float a, .float b => decide (a = b)
  | .str a, .str b => a == b
  | .list a, .list b => sameItems a b
  | .object a, .object b => sameMembers a b
  | _, _ => false

/-- Whether two sequences are the same data. -/
def sameItems : List Value → List Value → Bool
  | [], [] => true
  | v :: vs, w :: ws => same v w && sameItems vs ws
  | _, _ => false

/-- Whether two rows of members are the same data. -/
def sameMembers : List (String × Value) → List (String × Value) → Bool
  | [], [] => true
  | (k, v) :: vs, (l, w) :: ws => k == l && same v w && sameMembers vs ws
  | _, _ => false

end

mutual

theorem eq_of_same : ∀ {v w : Value}, same v w = true → v = w
  | .null, w, h => by cases w <;> simp_all [same]
  | .bool _, w, h => by cases w <;> simp_all [same]
  | .int _, w, h => by cases w <;> simp_all [same]
  | .float _, w, h => by cases w <;> simp_all [same]
  | .str _, w, h => by cases w <;> simp_all [same]
  | .list vs, w, h => by
    cases w <;> simp only [same, Bool.false_eq_true] at h
    rw [eq_of_sameItems h]
  | .object vs, w, h => by
    cases w <;> simp only [same, Bool.false_eq_true] at h
    rw [eq_of_sameMembers h]

theorem eq_of_sameItems : ∀ {vs ws : List Value}, sameItems vs ws = true → vs = ws
  | [], ws, h => by cases ws <;> simp_all [sameItems]
  | v :: vs, ws, h => by
    cases ws with
    | nil => simp [sameItems] at h
    | cons w ws =>
      simp only [sameItems, Bool.and_eq_true] at h
      rw [eq_of_same h.1, eq_of_sameItems h.2]

theorem eq_of_sameMembers : ∀ {vs ws : List (String × Value)}, sameMembers vs ws = true → vs = ws
  | [], ws, h => by cases ws <;> simp_all [sameMembers]
  | (k, v) :: vs, ws, h => by
    cases ws with
    | nil => simp [sameMembers] at h
    | cons w ws =>
      simp only [sameMembers, Bool.and_eq_true, beq_iff_eq] at h
      obtain ⟨⟨hk, hv⟩, hvs⟩ := h
      rw [hk, eq_of_same hv, eq_of_sameMembers hvs]

end

mutual

theorem same_refl : ∀ v : Value, same v v = true
  | .null | .bool _ | .int _ | .float _ | .str _ => by simp [same]
  | .list vs => by simp [same, sameItems_refl vs]
  | .object vs => by simp [same, sameMembers_refl vs]

theorem sameItems_refl : ∀ vs : List Value, sameItems vs vs = true
  | [] => rfl
  | v :: vs => by simp [sameItems, same_refl v, sameItems_refl vs]

theorem sameMembers_refl : ∀ vs : List (String × Value), sameMembers vs vs = true
  | [] => rfl
  | (k, v) :: vs => by simp [sameMembers, same_refl v, sameMembers_refl vs]

end

theorem same_iff {v w : Value} : same v w = true ↔ v = w :=
  ⟨eq_of_same, fun h => h ▸ same_refl v⟩

instance : DecidableEq Value := fun v w => decidable_of_iff (same v w = true) same_iff

/-! ## Parts -/

/-- The member of that name in a row of members. -/
def member? (name : String) (members : List (String × Value)) : Option Value :=
  members.lookup name

/-- A value that may be absent. -/
def ofOption : Option Value → Value
  | some v => v
  | none => .null

/-- The number that a value is or counts as; truth values count as zero and one. -/
def number? : Value → Option Number
  | .bool b => some (.int (if b then 1 else 0))
  | .int i => some (.int i)
  | .float x => some (.float x)
  | _ => none

/-- A value counts as present unless it is nothing, false, zero or empty. -/
def isPresent : Value → Bool
  | .null => false
  | .bool b => b
  | .int i => i ≠ 0
  | .float x => !x.isZero
  | .str s => s ≠ ""
  | .list items => !items.isEmpty
  | .object members => !members.isEmpty

/-- The value if it counts as present, and otherwise the other one. -/
def orElse (v w : Value) : Value :=
  if v.isPresent then v else w

/-- The name of a value's type, as messages give it. -/
def typeName : Value → String
  | .null => "NoneType"
  | .bool _ => "bool"
  | .int _ => "int"
  | .float _ => "float"
  | .str _ => "str"
  | .list _ => "list"
  | .object _ => "dict"

/-! ## Texts

A text stands for itself in a message when it is the whole value, and is quoted inside a sequence or
an object. -/

mutual

/-- The written form of a value, texts being quoted. -/
def quoted : Value → String
  | .null => "None"
  | .bool true => "True"
  | .bool false => "False"
  | .int i => toString i
  | .float x => x.text
  | .str s => Text.quoted s
  | .list items => "[" ++ ", ".intercalate (quotedItems items) ++ "]"
  | .object members => "\x7b" ++ ", ".intercalate (quotedMembers members) ++ "\x7d"

/-- The written forms of the items of a sequence. -/
def quotedItems : List Value → List String
  | [] => []
  | v :: vs => quoted v :: quotedItems vs

/-- The written forms of the members of an object. -/
def quotedMembers : List (String × Value) → List String
  | [] => []
  | (k, v) :: vs => (Text.quoted k ++ ": " ++ quoted v) :: quotedMembers vs

end

/-- The form of a value inside a message. -/
def text : Value → String
  | .str s => s
  | v => v.quoted

@[simp] theorem text_str (s : String) : text (.str s) = s := rfl

/-! ## Equality of size and contents

Values are equal when their canonical forms are the same: a truth value becomes a whole number, and
so does a floating number that is one, and the members of an object are put in the order of their
names. -/

/-- Puts a member in its place by name. -/
def insertMember (m : String × Value) : List (String × Value) → List (String × Value)
  | [] => [m]
  | n :: rest => if m.1 ≤ n.1 then m :: n :: rest else n :: insertMember m rest

mutual

/-- The form that a value shares with every value equal to it. -/
def canonical : Value → Value
  | .null => .null
  | .bool b => .int (if b then 1 else 0)
  | .int i => .int i
  | .float x =>
    match x.whole? with
    | some n => .int n
    | none => .float x
  | .str s => .str s
  | .list items => .list (canonicalItems items)
  | .object members => .object (canonicalMembers members)

/-- The canonical forms of the items of a sequence. -/
def canonicalItems : List Value → List Value
  | [] => []
  | v :: vs => canonical v :: canonicalItems vs

/-- The canonical forms of the members of an object, in order. -/
def canonicalMembers : List (String × Value) → List (String × Value)
  | [] => []
  | (k, v) :: vs => insertMember (k, canonical v) (canonicalMembers vs)

end

/-- Whether two values are equal. -/
def equals (v w : Value) : Bool :=
  v.canonical = w.canonical

@[simp] theorem canonical_str (s : String) : canonical (.str s) = .str s := by
  simp [canonical]

@[simp] theorem equals_str (s t : String) : equals (.str s) (.str t) = (s == t) := by
  by_cases h : s = t <;> simp [equals, h]

theorem equals_refl (v : Value) : equals v v = true := by
  simp [equals]

theorem equals_symm {v w : Value} (h : equals v w = true) : equals w v = true := by
  simp only [equals, decide_eq_true_eq] at h ⊢
  exact h.symm

theorem equals_trans {u v w : Value} (h : equals u v = true) (g : equals v w = true) :
    equals u w = true := by
  simp only [equals, decide_eq_true_eq] at h g ⊢
  exact h.trans g

end Value

end GroupOperator
