import GroupOperator.Proofs.Admission
import Mathlib.Logic.ExistsUnique

/-!
# How a notification is taken

The type and the body of a notification can be any values at all.  There are four ways to take it,
and they are tried in this order:

* the body is no service group (`ServiceGroup.IsForeign`), which is told as an error;
* the namespace or the name of the group is made of parts and cannot be kept, so that the delivery
  fails, whatever the type is;
* the type is none that changes anything, which is told to those who look for a fault;
* otherwise the store changes, and then the handler is called.

Exactly one of them awaits a notification (`Fate.existsUnique_awaits`).  In the first three the
handler has no part and the watch stays as it was.  In the last the handler comes too late to do
harm to the store: the delivery ends as the handler does, but the store is the same however that is,
and nothing in it has changed except under the key of the group (`Watching.Handled`).
-/

namespace GroupOperator

/-! ## What can be wrong with a notification -/

namespace Value

/-- A value made of parts, of which there is at least one. -/
def IsComposite (v : Value) : Prop :=
  (∃ first rest, v = .list (first :: rest)) ∨ ∃ first rest, v = .object (first :: rest)

/-- A value that is present is made of parts just if it is a sequence or an object. -/
theorem isComposite_iff {v : Value} (present : v.isPresent = true) :
    v.IsComposite ↔ ¬ v.IsScalar := by
  constructor
  · rintro (⟨first, rest, rfl⟩ | ⟨first, rest, rfl⟩) scalar
    · exact scalar.1 _ rfl
    · exact scalar.2 _ rfl
  · intro compound
    cases v with
    | list items =>
      cases items with
      | nil => cases present
      | cons first rest => exact .inl ⟨first, rest, rfl⟩
    | object members =>
      cases members with
      | nil => cases present
      | cons first rest => exact .inr ⟨first, rest, rfl⟩
    | null | bool _ | int _ | float _ | str _ => exact absurd (isUsable_iff.mp rfl) compound

/-- Where a text stands for what is not present, a sequence or an object has something in it. -/
theorem isComposite_orElse_iff (v : Value) (s : String) :
    (v.orElse (.str s)).IsComposite ↔ ¬ (v.orElse (.str s)).IsScalar := by
  rw [orElse]
  split
  · rename_i present
    exact isComposite_iff present
  · refine iff_of_false ?_ (not_not_intro (isUsable_iff.mp rfl))
    rintro (⟨first, rest, list⟩ | ⟨first, rest, object⟩)
    · cases list
    · cases object

end Value

namespace ServiceGroup

/-- An object has something in the place of that part, but it has no members. -/
def HasBroken (part : String) (members : List (String × Value)) : Prop :=
  ∃ v, Value.member? part members = some v ∧ v.isPresent = true ∧ ∀ inner, v ≠ .object inner

/-- The bodies that are no service groups. -/
inductive IsForeign : Value → Prop where
  /-- It is no object. -/
  | notAnObject {body : Value} (other : ∀ members, body ≠ .object members) : IsForeign body
  /-- It states another kind. -/
  | otherKind {members : List (String × Value)} {kind : Value}
      (states : Value.member? "kind" members = some kind) (stated : kind ≠ .null)
      (other : kind ≠ .str "ServiceGroup") : IsForeign (.object members)
  /-- Its metadata are broken. -/
  | metadata {members : List (String × Value)} (broken : HasBroken "metadata" members) :
      IsForeign (.object members)
  /-- Its specification is broken. -/
  | spec {members : List (String × Value)} (broken : HasBroken "spec" members) :
      IsForeign (.object members)

/-- The namespace or the name of a group is made of parts. -/
def HasCompositeKey (g : ServiceGroup) : Prop :=
  g.namespaceName.IsComposite ∨ g.name.IsComposite

variable {body : Value} {g : ServiceGroup} {members : List (String × Value)}

/-- A part cannot be read just if it is broken. -/
theorem part?_eq_none_iff {part : String} : part? part members = none ↔ HasBroken part members := by
  rw [part?, HasBroken]
  cases Value.member? part members with
  | none => simp
  | some v =>
    cases v with
    | object inner => simp
    | null | bool _ | int _ | float _ | str _ | list _ => simp

theorem isKind_eq_false_iff {kind : Option Value} :
    isKind (Value.ofOption kind) = false ↔
      ∃ v, kind = some v ∧ v ≠ .null ∧ v ≠ .str "ServiceGroup" := by
  rw [Bool.eq_false_iff, ne_eq, isKind_iff]
  cases kind <;> simp

/-- A body is refused just if it is foreign. -/
theorem exists_refusal_iff : (∃ r, ofBody? body = .error r) ↔ IsForeign body := by
  constructor
  · rintro ⟨r, refused⟩
    cases body with
    | object members =>
      simp only [ofBody?] at refused
      split at refused
      · cases metadata : part? "metadata" members with
        | none => exact .metadata (part?_eq_none_iff.mp metadata)
        | some fields =>
          cases spec : part? "spec" members with
          | none => exact .spec (part?_eq_none_iff.mp spec)
          | some options =>
            rw [metadata, spec] at refused
            cases refused
      · rename_i other
        obtain ⟨kind, states, stated, other⟩ :=
          isKind_eq_false_iff.mp (Bool.eq_false_iff.mpr other)
        exact .otherKind states stated other
    | null | bool _ | int _ | float _ | str _ | list _ =>
      apply IsForeign.notAnObject
      intro members object
      cases object
  · intro foreign
    cases foreign with
    | notAnObject other =>
      cases body with
      | object members => exact absurd rfl (other members)
      | null | bool _ | int _ | float _ | str _ | list _ => exact ⟨_, rfl⟩
    | otherKind states stated other =>
      have unlike := isKind_eq_false_iff.mpr ⟨_, states, stated, other⟩
      simp [ofBody?, unlike]
    | metadata broken =>
      simp only [ofBody?, part?_eq_none_iff.mpr broken]
      split <;> exact ⟨_, rfl⟩
    | spec broken =>
      simp only [ofBody?, part?_eq_none_iff.mpr broken]
      split
      · cases part? "metadata" _ <;> exact ⟨_, rfl⟩
      · exact ⟨_, rfl⟩

/-- Whatever can be read is not foreign. -/
theorem not_isForeign_of_ofBody? (read : ofBody? body = .ok g) : ¬ IsForeign body := by
  intro foreign
  obtain ⟨r, refused⟩ := exists_refusal_iff.mpr foreign
  rw [read] at refused
  cases refused

/-- Of all groups only the one that was read from a body comes into question for it. -/
theorem exists_read_and_iff (read : ofBody? body = .ok g) {p : ServiceGroup → Prop} :
    (∃ h, ofBody? body = .ok h ∧ p h) ↔ p g := by
  constructor
  · rintro ⟨h, other, holds⟩
    rw [read] at other
    obtain rfl := Except.ok.inj other
    exact holds
  · exact fun holds => ⟨g, read, holds⟩

/-- A group that was read from an object has a usable key unless that is made of parts. -/
theorem unusable?_ofGroup_eq_none_iff (read : ofBody? body = .ok g) :
    (Key.ofGroup g).unusable? = none ↔ ¬ g.HasCompositeKey := by
  have found := readFrom_of_ofBody? read
  have space : g.namespaceName.IsComposite ↔ ¬ g.namespaceName.IsScalar := by
    rw [found.namespaceName]
    exact Value.isComposite_orElse_iff _ _
  have name : g.name.IsComposite ↔ ¬ g.name.IsScalar := by
    rw [found.name]
    exact Value.isComposite_orElse_iff _ _
  rw [unusable?_eq_none_iff, HasCompositeKey, space, name, not_or, Classical.not_not,
    Classical.not_not]
  exact Iff.rfl

end ServiceGroup

/-! ## What stays in the store -/

namespace Store

/-- Beside what is put under a key everything stays, and in its order. -/
theorem erase_put (s : Store) (k : Key) (g : ServiceGroup) : (s.put k g).erase k = s.erase k := by
  obtain ⟨entries⟩ := s
  rw [put, erase, erase, Store.mk.injEq]
  induction entries with
  | nil => simp [putEntry, Key.same_refl]
  | cons entry rest ih =>
    rw [putEntry]
    by_cases own : entry.1.same k = true
    · rw [if_pos own, List.filter_cons_of_neg (by simpa using own),
        List.filter_cons_of_neg (by simpa using own)]
    · rw [if_neg own, List.filter_cons_of_pos (by simpa using own),
        List.filter_cons_of_pos (by simpa using own), ih]

/-- What is forgotten is gone at once. -/
theorem erase_erase (s : Store) (k : Key) : (s.erase k).erase k = s.erase k := by
  simp [erase, List.filter_filter]

variable {s s' : Store} {g : ServiceGroup} {e : Event}

/-- What was accepted has changed nothing but the entry of the group. -/
theorem Acceptance.others (h : Acceptance s g s' e) :
    s'.erase (Key.ofGroup g) = s.erase (Key.ofGroup g) := by
  cases h with
  | added absent => exact erase_put _ _ _
  | modified present => exact erase_put _ _ _
  | deleted => exact erase_erase _ _

/-- And that entry is as the event says. -/
theorem Acceptance.own (h : Acceptance s g s' e) :
    s'.get? (Key.ofGroup g) = if e.kind = .deleted then none else some g := by
  cases h with
  | added absent | modified present => exact (get?_put _ _ _ _).trans (if_pos (Key.same_refl _))
  | deleted => exact (get?_erase _ _ _).trans (if_pos (Key.same_refl _))

end Store

/-! ## Four fates -/

/-- A type that changes something: none, as in the first listing, or one of three texts. -/
def IsEventType (type : Value) : Prop :=
  type = .null ∨ type = .str "ADDED" ∨ type = .str "MODIFIED" ∨ type = .str "DELETED"

theorem isEventType_iff {type : Value} :
    IsEventType type ↔ isRemoval type = true ∨ isPresence type = true := by
  constructor
  · rintro (rfl | rfl | rfl | rfl)
    · exact .inr rfl
    · exact .inr rfl
    · exact .inr rfl
    · exact .inl rfl
  · rintro (removal | presence)
    · exact .inr (.inr (.inr (of_decide_eq_true removal)))
    · rw [isPresence, Bool.or_eq_true, Bool.or_eq_true, decide_eq_true_eq, decide_eq_true_eq,
        decide_eq_true_eq] at presence
      rcases presence with (first | added) | modified
      · exact .inl first
      · exact .inr (.inl added)
      · exact .inr (.inr (.inl modified))

/-- The ways to take a notification. -/
inductive Fate where
  /-- Its body is no service group. -/
  | dropped
  /-- The group in it cannot be kept. -/
  | unkeyed
  /-- Its type changes nothing. -/
  | ignored
  /-- The handler is called. -/
  | handled
  deriving DecidableEq, Repr

/-- Which way a notification has to be taken. -/
def Fate.Awaits (type body : Value) : Fate → Prop
  | .dropped => ServiceGroup.IsForeign body
  | .unkeyed => ∃ g, ServiceGroup.ofBody? body = .ok g ∧ g.HasCompositeKey
  | .ignored => ∃ g, ServiceGroup.ofBody? body = .ok g ∧ ¬ g.HasCompositeKey ∧ ¬ IsEventType type
  | .handled => ∃ g, ServiceGroup.ofBody? body = .ok g ∧ ¬ g.HasCompositeKey ∧ IsEventType type

/-- There is exactly one way. -/
theorem Fate.existsUnique_awaits (type body : Value) : ∃! fate : Fate, fate.Awaits type body := by
  cases read : ServiceGroup.ofBody? body with
  | error r =>
    refine ⟨.dropped, ServiceGroup.exists_refusal_iff.mp ⟨r, read⟩, ?_⟩
    rintro (- | - | - | -) awaits
    · rfl
    all_goals
      obtain ⟨g, other, -⟩ := awaits
      rw [read] at other
      cases other
  | ok g =>
    have known := ServiceGroup.not_isForeign_of_ofBody? read
    have only {p : ServiceGroup → Prop} := ServiceGroup.exists_read_and_iff read (p := p)
    by_cases composite : g.HasCompositeKey
    · refine ⟨.unkeyed, only.mpr composite, ?_⟩
      rintro (- | - | - | -) awaits
      · exact absurd awaits known
      · rfl
      · exact absurd composite (only.mp awaits).1
      · exact absurd composite (only.mp awaits).1
    · by_cases changes : IsEventType type
      · refine ⟨.handled, only.mpr ⟨composite, changes⟩, ?_⟩
        rintro (- | - | - | -) awaits
        · exact absurd awaits known
        · exact absurd (only.mp awaits) composite
        · exact absurd changes (only.mp awaits).2
        · rfl
      · refine ⟨.ignored, only.mpr ⟨composite, changes⟩, ?_⟩
        rintro (- | - | - | -) awaits
        · exact absurd awaits known
        · exact absurd (only.mp awaits) composite
        · rfl
        · exact absurd (only.mp awaits).2 changes

namespace Watching

variable {σ : Type}

/-- What is done with a notification that becomes an event, whoever handles it. -/
structure Handled (type body : Value) (w : Watching σ) (store : Store) (e : Event) : Prop where
  /-- The event is about the group in the body. -/
  group : ServiceGroup.ofBody? body = .ok e.group
  /-- The handler is called once, when the store has changed already. -/
  call : ∀ handler : Handler σ, deliver handler type body w = hand handler e { w with store }
  /-- The delivery ends as that call ends, and the store is the same however it does. -/
  outcome : ∀ handler : Handler σ, deliver handler type body w =
    ⟨(handler e w.outside).result, .handed e :: (handler e w.outside).chronicle,
      ⟨store, (handler e w.outside).state⟩⟩
  /-- The group is forgotten if it is gone, and remembered otherwise. -/
  own : store.get? (Key.ofGroup e.group) = if e.kind = .deleted then none else some e.group
  /-- All else that was remembered still is. -/
  others : store.erase (Key.ofGroup e.group) = w.store.erase (Key.ofGroup e.group)

/-- What comes of a notification that is taken one of the ways, whoever handles events. -/
def Follows (type body : Value) (w : Watching σ) : Fate → Prop
  | .dropped => ∃ r, ServiceGroup.ofBody? body = .error r ∧ ∀ handler : Handler σ,
      deliver handler type body w =
        ⟨.ok (), [.told (record .error ("Dropping event: " ++ r.message))], w⟩
  | .unkeyed => ∃ g part, ServiceGroup.ofBody? body = .ok g ∧
      (Key.ofGroup g).unusable? = some part ∧ ∀ handler : Handler σ,
      deliver handler type body w =
        ⟨.error (.badType ("unhashable type: \x27" ++ part.typeName ++ "\x27")), [], w⟩
  | .ignored => ∃ g, ServiceGroup.ofBody? body = .ok g ∧ ∀ handler : Handler σ,
      deliver handler type body w =
        ⟨.ok (), [.told (record .debug ("Ignoring " ++ type.text ++ " event for " ++ g.link.text))],
          w⟩
  | .handled => ∃ store e, Handled type body w store e

variable {type body : Value} {g : ServiceGroup}

/-- What is accepted is handled. -/
theorem handled_of_receive {w : Watching σ} {store : Store} {e : Event}
    (accepted : w.store.receive type body = .accepted store e) : Handled type body w store e := by
  obtain ⟨g, read, -, acceptance⟩ := Store.acceptance_of_receive accepted
  obtain rfl := acceptance.group_eq
  have call (handler : Handler σ) :
      deliver handler type body w = hand handler e { w with store } := by
    rw [deliver_apply, accepted, settle_accepted_apply]
  exact {
    group := read
    call := call
    outcome := call
    own := acceptance.own
    others := acceptance.others }

/-- A group that can be kept is accepted if the type changes something. -/
theorem exists_accepted (read : ServiceGroup.ofBody? body = .ok g)
    (usable : (Key.ofGroup g).unusable? = none) (changes : IsEventType type) (s : Store) :
    ∃ store e, s.receive type body = .accepted store e := by
  by_cases removal : isRemoval type = true
  · exact ⟨_, _, Store.receive_of_removal removal read usable⟩
  · have presence := (isEventType_iff.mp changes).resolve_left removal
    cases known : s.get? (Key.ofGroup g) with
    | none => exact ⟨_, _, Store.receive_of_absent presence read usable known⟩
    | some old =>
      simp only [Store.receive, read, usable, Store.receiveGroup, if_neg removal, if_pos presence,
        known]
      exact ⟨_, _, rfl⟩

/-- A group that can be kept is ignored if the type changes nothing. -/
theorem receive_of_idle (read : ServiceGroup.ofBody? body = .ok g)
    (usable : (Key.ofGroup g).unusable? = none) (idle : ¬ IsEventType type) (s : Store) :
    s.receive type body = .ignored type g := by
  obtain ⟨kept, absent⟩ := not_or.mp (mt isEventType_iff.mpr idle)
  simp only [Store.receive, read, usable, Store.receiveGroup, if_neg kept, if_neg absent]

/-- **How a notification is taken.**  Whatever its type and its body are, and whatever is
remembered, exactly one of four fates awaits a notification, and each comes as it should: a body
that is no service group is told as one error; a group whose namespace or name is made of parts
makes the delivery fail with a type error; a type that changes nothing is told for those who look
for a fault; in all three the watch stays as it is and no handler is called.  Otherwise the handler
is called once, after the store has changed; the delivery fails just if the handler does, and the
store, which is the same either way, differs from what it was in nothing but the entry of the
group. -/
theorem deliver_classified (type body : Value) (w : Watching σ) :
    (∃! fate : Fate, fate.Awaits type body) ∧
      ∀ fate : Fate, fate.Awaits type body → Follows type body w fate := by
  refine ⟨Fate.existsUnique_awaits type body, ?_⟩
  rintro (- | - | - | -) awaits
  · obtain ⟨r, refused⟩ := ServiceGroup.exists_refusal_iff.mpr awaits
    refine ⟨r, refused, fun handler => ?_⟩
    rw [deliver_apply, Store.receive, refused]
    rfl
  · obtain ⟨g, read, composite⟩ := awaits
    cases usable : (Key.ofGroup g).unusable? with
    | none => exact absurd composite ((ServiceGroup.unusable?_ofGroup_eq_none_iff read).mp usable)
    | some part =>
      refine ⟨g, part, read, usable, fun handler => ?_⟩
      simp only [deliver_apply, Store.receive, read, usable]
      rfl
  · obtain ⟨g, read, simple, idle⟩ := awaits
    have usable := (ServiceGroup.unusable?_ofGroup_eq_none_iff read).mpr simple
    refine ⟨g, read, fun handler => ?_⟩
    rw [deliver_apply, receive_of_idle read usable idle]
    rfl
  · obtain ⟨g, read, simple, changes⟩ := awaits
    have usable := (ServiceGroup.unusable?_ofGroup_eq_none_iff read).mpr simple
    obtain ⟨store, e, accepted⟩ := exists_accepted read usable changes w.store
    exact ⟨store, e, handled_of_receive accepted⟩

end Watching

end GroupOperator
