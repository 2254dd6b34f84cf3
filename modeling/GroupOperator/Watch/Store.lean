import GroupOperator.ServiceGroup

/-!
# What a watch remembers

A watch keeps the last object it saw under each namespace and name, in the order in which they first
appeared.  Keys that are equal are one key, and an entry keeps the key it was first made with.

A raw notification, a type and a body, is received in one of four ways: its body is no service
group, its body has no usable key, its type is none that changes anything, or it changes the store
and becomes an event.  Whether a group was added or modified is read off the store and not off the
type.
-/

namespace GroupOperator

/-- Where an object stands: its namespace and its name. -/
structure Key where
  /-- The namespace. -/
  namespaceName : Value
  /-- The name. -/
  name : Value
  deriving DecidableEq, Repr

namespace Key

/-- The key of a group. -/
def ofGroup (g : ServiceGroup) : Key :=
  ⟨g.namespaceName, g.name⟩

/-- Whether two keys are equal. -/
def same (k l : Key) : Bool :=
  k.namespaceName.equals l.namespaceName && k.name.equals l.name

/-- Whether a value can be part of a key. -/
def isUsable : Value → Bool
  | .list _ | .object _ => false
  | _ => true

/-- The part of a key that cannot be one, the namespace being looked at first. -/
def unusable? (k : Key) : Option Value :=
  if !isUsable k.namespaceName then some k.namespaceName
  else if !isUsable k.name then some k.name
  else none

theorem same_refl (k : Key) : k.same k = true := by
  simp [same, Value.equals_refl]

theorem same_symm {k l : Key} (h : k.same l = true) : l.same k = true := by
  simp only [same, Bool.and_eq_true] at h ⊢
  exact ⟨Value.equals_symm h.1, Value.equals_symm h.2⟩

theorem same_trans {k l m : Key} (h : k.same l = true) (g : l.same m = true) :
    k.same m = true := by
  simp only [same, Bool.and_eq_true] at h g ⊢
  exact ⟨Value.equals_trans h.1 g.1, Value.equals_trans h.2 g.2⟩

end Key

/-! ## The store -/

/-- The objects that a watch remembers, oldest key first. -/
structure Store where
  /-- The entries. -/
  entries : List (Key × ServiceGroup) := []
  deriving DecidableEq, Repr

namespace Store

/-- The object under a key. -/
def get? (s : Store) (k : Key) : Option ServiceGroup :=
  (s.entries.find? fun entry => entry.1.same k).map (·.2)

/-- Puts an object under a key in a row of entries: in place if the key is there, else at the
end. -/
def putEntry (k : Key) (g : ServiceGroup) : List (Key × ServiceGroup) → List (Key × ServiceGroup)
  | [] => [(k, g)]
  | entry :: rest => if entry.1.same k then (entry.1, g) :: rest else entry :: putEntry k g rest

/-- Puts an object under a key. -/
def put (s : Store) (k : Key) (g : ServiceGroup) : Store :=
  ⟨putEntry k g s.entries⟩

/-- Forgets a key. -/
def erase (s : Store) (k : Key) : Store :=
  ⟨s.entries.filter fun entry => !entry.1.same k⟩

/-- The objects, in order. -/
def groups (s : Store) : List ServiceGroup :=
  s.entries.map (·.2)

/-- The keys, in order. -/
def keys (s : Store) : List Key :=
  s.entries.map (·.1)

end Store

/-! ## Receiving notifications -/

/-- How a notification is received. -/
inductive Reception where
  /-- The body is no service group. -/
  | dropped (r : ServiceGroup.Refusal)
  /-- The group's key is unusable, because of this part of it. -/
  | unkeyed (part : Value)
  /-- The type is none that changes anything. -/
  | ignored (type : Value) (g : ServiceGroup)
  /-- The store changes and an event is due. -/
  | accepted (store : Store) (event : Event)
  deriving DecidableEq, Repr

/-- Whether a type says that an object is gone. -/
def isRemoval (type : Value) : Bool :=
  type = .str EventKind.deleted.name

/-- Whether a type says that an object is there.  The first listing states no type. -/
def isPresence (type : Value) : Bool :=
  type = .null || type = .str EventKind.added.name || type = .str EventKind.modified.name

/-- Receives a notification about a group that can be kept. -/
def Store.receiveGroup (s : Store) (type : Value) (g : ServiceGroup) : Reception :=
  let key := Key.ofGroup g
  if isRemoval type then .accepted (s.erase key) ⟨.deleted, g, none⟩
  else if isPresence type then
    match s.get? key with
    | none => .accepted (s.put key g) ⟨.added, g, none⟩
    | some old => .accepted (s.put key g) ⟨.modified, g, some old⟩
  else .ignored type g

/-- Receives a notification. -/
def Store.receive (s : Store) (type body : Value) : Reception :=
  match ServiceGroup.ofBody? body with
  | .error r => .dropped r
  | .ok g =>
    match (Key.ofGroup g).unusable? with
    | some part => .unkeyed part
    | none => s.receiveGroup type g

/-! ## The store as a map -/

namespace Store

theorem find?_putEntry (k l : Key) (g : ServiceGroup) (entries : List (Key × ServiceGroup)) :
    ((putEntry k g entries).find? fun entry => entry.1.same l).map (·.2) =
      if k.same l then some g else (entries.find? fun entry => entry.1.same l).map (·.2) := by
  induction entries with
  | nil => cases h : k.same l <;> simp [putEntry, List.find?, h]
  | cons entry rest ih =>
    by_cases hk : entry.1.same k = true
    · simp only [putEntry, hk, if_true]
      by_cases hl : k.same l = true
      · simp [List.find?, Key.same_trans hk hl, hl]
      · have hel : entry.1.same l = false := by
          cases h : entry.1.same l with
          | false => rfl
          | true => exact absurd (Key.same_trans (Key.same_symm hk) h) hl
        simp [List.find?, hel, hl]
    · simp only [putEntry, hk, Bool.false_eq_true, if_false]
      by_cases hl : entry.1.same l = true
      · have hkl : k.same l = false := by
          cases h : k.same l with
          | false => rfl
          | true => exact absurd (Key.same_trans hl (Key.same_symm h)) hk
        simp [List.find?, hl, hkl]
      · simp only [Bool.not_eq_true] at hl
        simpa [List.find?, hl] using ih

/-- Reading after writing. -/
theorem get?_put (s : Store) (k l : Key) (g : ServiceGroup) :
    (s.put k g).get? l = if k.same l then some g else s.get? l :=
  find?_putEntry k l g s.entries

/-- Reading after forgetting. -/
theorem get?_erase (s : Store) (k l : Key) :
    (s.erase k).get? l = if k.same l then none else s.get? l := by
  obtain ⟨entries⟩ := s
  simp only [erase, get?]
  induction entries with
  | nil => simp
  | cons entry rest ih =>
    by_cases hk : entry.1.same k = true
    · simp only [List.filter_cons, hk, Bool.not_true, Bool.false_eq_true, if_false]
      rw [ih]
      by_cases hl : k.same l = true
      · simp [hl]
      · have hel : entry.1.same l = false := by
          cases h : entry.1.same l with
          | false => rfl
          | true => exact absurd (Key.same_trans (Key.same_symm hk) h) hl
        simp [hl, List.find?, hel]
    · simp only [Bool.not_eq_true] at hk
      simp only [List.filter_cons, hk, Bool.not_false, if_true, List.find?]
      by_cases hl : entry.1.same l = true
      · have hkl : k.same l = false := by
          cases h : k.same l with
          | false => rfl
          | true =>
            exact absurd (Key.same_trans hl (Key.same_symm h)) (by simp [hk])
        simp [hl, hkl]
      · simp only [Bool.not_eq_true] at hl
        simpa [hl] using ih

end Store

end GroupOperator
