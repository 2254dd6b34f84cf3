import GroupOperator.Proofs.Course
import GroupOperator.Watch.Replay

/-!
# What a notification does to a watch

A notification changes the store in one of three ways, or not at all, and the event it becomes says
which (`Store.Acceptance`).  What is done with the event afterwards is the handler's business, and
here it is only said where the handler comes in: once for a delivery that was accepted, once for
every remembered object when everything is redelivered.
-/

namespace GroupOperator

/-! ## Actions in a row -/

namespace Action

variable {σ α : Type} {act : α → Action σ Unit}

theorem forEach_cons_of_ok {a : α} {rest : List α} {s : σ} (h : (act a s).result = .ok ()) :
    forEach act (a :: rest) s =
      ⟨(forEach act rest (act a s).state).result,
        (act a s).chronicle ++ (forEach act rest (act a s).state).chronicle,
        (forEach act rest (act a s).state).state⟩ :=
  bind_apply_of_ok h

theorem forEach_cons_of_error {a : α} {rest : List α} {s : σ} {f : Failure}
    (h : (act a s).result = .error f) :
    forEach act (a :: rest) s = ⟨.error f, (act a s).chronicle, (act a s).state⟩ :=
  bind_apply_of_error h

/-- Members can be made ready beforehand. -/
theorem forEach_map {β : Type} (f : β → α) (l : List β) :
    forEach act (l.map f) = forEach (fun b => act (f b)) l := by
  induction l with
  | nil => rfl
  | cons b rest ih => rw [List.map_cons, forEach, forEach, ih]

/-- A row of which no member fails does not fail. -/
theorem result_forEach {l : List α} (fine : ∀ a ∈ l, ∀ s, (act a s).result = .ok ()) (s : σ) :
    (forEach act l s).result = .ok () := by
  induction l generalizing s with
  | nil => rfl
  | cons a rest ih =>
    obtain ⟨ha, hrest⟩ := List.forall_mem_cons.mp fine
    rw [forEach_cons_of_ok (ha s)]
    exact ih hrest _

/-- What every member keeps a row keeps, wherever it ends. -/
theorem state_forEach {p : σ → Prop} {l : List α} (keeps : ∀ a s, p s → p (act a s).state) {s : σ}
    (h : p s) : p (forEach act l s).state := by
  induction l generalizing s with
  | nil => exact h
  | cons a rest ih =>
    cases ha : (act a s).result with
    | ok u =>
      rw [forEach_cons_of_ok ha]
      exact ih (keeps a s h)
    | error f =>
      rw [forEach_cons_of_error ha]
      exact keeps a s h

end Action

/-! ## What is accepted -/

namespace Store

variable {s s' : Store}

/-- What a notification about a group can make of a store, and the event that it becomes. -/
inductive Acceptance (s : Store) (g : ServiceGroup) : Store → Event → Prop where
  /-- The group is new. -/
  | added (absent : s.get? (Key.ofGroup g) = none) :
      Acceptance s g (s.put (Key.ofGroup g) g) ⟨.added, g, none⟩
  /-- The group takes the place of what was known of it. -/
  | modified {old : ServiceGroup} (present : s.get? (Key.ofGroup g) = some old) :
      Acceptance s g (s.put (Key.ofGroup g) g) ⟨.modified, g, some old⟩
  /-- The group is gone. -/
  | deleted : Acceptance s g (s.erase (Key.ofGroup g)) ⟨.deleted, g, none⟩

/-- The event is about that group. -/
theorem Acceptance.group_eq {g : ServiceGroup} {e : Event} (h : Acceptance s g s' e) :
    e.group = g := by
  cases h with
  | added | modified | deleted => rfl

/-- The one inversion of receiving: what is accepted is about a group with a usable key. -/
theorem acceptance_of_receive {type body : Value} {e : Event}
    (h : s.receive type body = .accepted s' e) :
    ∃ g, ServiceGroup.ofBody? body = .ok g ∧ (Key.ofGroup g).unusable? = none ∧
      Acceptance s g s' e := by
  rw [receive] at h
  cases hb : ServiceGroup.ofBody? body with
  | error r =>
    rw [hb] at h
    cases h
  | ok g =>
    cases hu : (Key.ofGroup g).unusable? with
    | some part =>
      simp only [hb, hu] at h
      cases h
    | none =>
      refine ⟨g, rfl, hu, ?_⟩
      simp only [hb, hu, receiveGroup] at h
      split at h
      · cases h
        exact .deleted
      · split at h
        · split at h
          · rename_i absent
            cases h
            exact .added absent
          · rename_i old present
            cases h
            exact .modified present
        · cases h

/-- What cannot be kept is a group with an unusable part in its key. -/
theorem of_receive_eq_unkeyed {type body part : Value} (h : s.receive type body = .unkeyed part) :
    ∃ g, ServiceGroup.ofBody? body = .ok g ∧ (Key.ofGroup g).unusable? = some part := by
  rw [receive] at h
  cases hb : ServiceGroup.ofBody? body with
  | error r =>
    rw [hb] at h
    cases h
  | ok g =>
    cases hu : (Key.ofGroup g).unusable? with
    | some p =>
      simp only [hb, hu, Reception.unkeyed.injEq] at h
      exact ⟨g, rfl, h ▸ hu⟩
    | none =>
      simp only [hb, hu, receiveGroup] at h
      split at h
      · cases h
      · split at h
        · split at h <;> cases h
        · cases h

/-- A group that is there, can be kept and is not known yet is accepted as added. -/
theorem receive_of_absent {type body : Value} {g : ServiceGroup} (presence : isPresence type = true)
    (hb : ServiceGroup.ofBody? body = .ok g) (usable : (Key.ofGroup g).unusable? = none)
    (absent : s.get? (Key.ofGroup g) = none) :
    s.receive type body = .accepted (s.put (Key.ofGroup g) g) ⟨.added, g, none⟩ := by
  have hr : ¬ isRemoval type = true := by
    intro hr
    rw [isRemoval, decide_eq_true_eq] at hr
    rw [hr] at presence
    cases presence
  simp only [receive, hb, usable, receiveGroup, if_neg hr, presence, if_true, absent]

/-- A notification of a removal is passed on as a deletion if what was removed can be kept. -/
theorem receive_of_removal {type body : Value} {g : ServiceGroup}
    (removal : isRemoval type = true) (hb : ServiceGroup.ofBody? body = .ok g)
    (usable : (Key.ofGroup g).unusable? = none) :
    s.receive type body = .accepted (s.erase (Key.ofGroup g)) ⟨.deleted, g, none⟩ := by
  simp only [receive, hb, usable, receiveGroup, if_pos removal]

/-- A deletion is what a notification of a removal becomes, and none other. -/
theorem isRemoval_of_receive {type body : Value} {e : Event}
    (h : s.receive type body = .accepted s' e) (deleted : e.kind = .deleted) :
    isRemoval type = true := by
  obtain ⟨g, hb, usable, acceptance⟩ := acceptance_of_receive h
  refine Decidable.byContradiction fun other => ?_
  simp only [receive, hb, usable, receiveGroup, if_neg other] at h
  split at h
  · split at h <;> cases h <;> cases deleted
  · cases h

end Store

/-! ## Where the handler comes in -/

namespace Watching

variable {σ : Type} (handler : Handler σ)

theorem hand_apply (e : Event) (w : Watching σ) :
    hand handler e w =
      ⟨(handler e w.outside).result, .handed e :: (handler e w.outside).chronicle,
        { w with outside := (handler e w.outside).state }⟩ := rfl

theorem deliver_apply (type body : Value) (w : Watching σ) :
    deliver handler type body w = settle handler (w.store.receive type body) w := rfl

theorem settle_accepted_apply (store : Store) (e : Event) (w : Watching σ) :
    settle handler (.accepted store e) w = hand handler e { w with store } := rfl

theorem redeliver_apply (w : Watching σ) :
    redeliver handler w =
      let row := Action.forEach (fun g => hand handler (redelivery g)) w.store.groups w
      ⟨row.result, .told (record .debug ("Resyncing " ++ toString w.store.groups.length ++
        " ServiceGroup(s)")) :: row.chronicle, row.state⟩ := rfl

/-- A notification can be delivered if the group in its body, if there is one, has a usable key. -/
def IsKeyed (body : Value) : Prop :=
  ∀ g, ServiceGroup.ofBody? body = .ok g → (Key.ofGroup g).unusable? = none

instance (body : Value) : Decidable (IsKeyed body) :=
  match h : ServiceGroup.ofBody? body with
  | .ok g => decidable_of_iff ((Key.ofGroup g).unusable? = none) (by simp [IsKeyed, h])
  | .error r => .isTrue fun g hg => by
    rw [h] at hg
    cases hg

variable {handler}

/-- Where the handler never fails, neither does the delivery of what can be kept. -/
theorem result_deliver (fine : ∀ e s, (handler e s).result = .ok ()) {body : Value}
    (keyed : IsKeyed body) (type : Value) (w : Watching σ) :
    (deliver handler type body w).result = .ok () := by
  rw [deliver_apply]
  cases hr : w.store.receive type body with
  | dropped r => rfl
  | unkeyed part =>
    obtain ⟨g, hb, hu⟩ := Store.of_receive_eq_unkeyed hr
    rw [keyed g hb] at hu
    cases hu
  | ignored type g => rfl
  | accepted store e => exact fine e w.outside

/-- Where the handler never fails, neither does a redelivery. -/
theorem result_redeliver (fine : ∀ e s, (handler e s).result = .ok ()) (w : Watching σ) :
    (redeliver handler w).result = .ok () :=
  Action.result_forEach (fun g _ (w : Watching σ) => fine (redelivery g) w.outside) w

end Watching

/-! ## The reconciler as the handler

Handing a row of events to the reconciler is handling a history: it never fails, so the row is gone
through to its end. -/

namespace Watching

open Reconciler

variable {σ : Type} (answer : Answering σ) (home : Value)

theorem forEach_hand_cons (e : Event) (rest : List Event) (w : Watching σ) :
    Action.forEach (hand (.ofActivity answer (handle home))) (e :: rest) w =
      let first := hand (.ofActivity answer (handle home)) e w
      let others := Action.forEach (hand (.ofActivity answer (handle home))) rest first.state
      ⟨others.result, first.chronicle ++ others.chronicle, others.state⟩ :=
  Action.forEach_cons_of_ok (result_handle answer home w.outside e)

theorem state_forEach_hand (events : List Event) (w : Watching σ) :
    (Action.forEach (hand (.ofActivity answer (handle home))) events w).state =
      { w with outside := ((handleAll home events).run answer w.outside).state } := by
  induction events generalizing w with
  | nil => rfl
  | cons e rest ih =>
    rw [forEach_hand_cons, handleAll, Activity.run_bind,
      Action.bind_apply_of_ok (result_handle answer home w.outside e)]
    exact ih _

theorem requests_hand (e : Event) (w : Watching σ) :
    (hand (.ofActivity answer (handle home)) e w).chronicle.requests =
      ((handle home e).exchanges answer w.outside).map (·.request) :=
  Activity.requests_run answer (handle home e) w.outside

theorem requests_forEach_hand (events : List Event) (w : Watching σ) :
    (Action.forEach (hand (.ofActivity answer (handle home))) events w).chronicle.requests =
      ((handleAll home events).exchanges answer w.outside).map (·.request) := by
  induction events generalizing w with
  | nil => rfl
  | cons e rest ih =>
    simp only [forEach_hand_cons, Chronicle.requests_append, requests_hand,
      exchanges_handleAll_cons, List.map_append]
    exact congrArg (_ ++ ·) (ih _)

variable {answer home} in
/-- What a delivery requests is requested for the event that the notification becomes. -/
theorem mem_requests_deliver_iff {type body : Value} {w : Watching σ} {r : Request} :
    r ∈ (deliver (.ofActivity answer (handle home)) type body w).chronicle.requests ↔
      ∃ store e, w.store.receive type body = .accepted store e ∧
        r ∈ ((handle home e).run answer w.outside).chronicle.requests := by
  rw [deliver_apply]
  cases hr : w.store.receive type body with
  | dropped _ | unkeyed _ | ignored _ _ =>
    refine iff_of_false List.not_mem_nil ?_
    rintro ⟨store, e, other, -⟩
    cases other
  | accepted store e =>
    constructor
    · exact fun asked => ⟨store, e, rfl, asked⟩
    · rintro ⟨store', e', same, asked⟩
      cases same
      exact asked

/-- A redelivery leaves the store alone and handles what it holds as a history. -/
theorem state_redeliver (w : Watching σ) :
    (redeliver (.ofActivity answer (handle home)) w).state =
      { w with
        outside :=
          ((handleAll home (w.store.groups.map redelivery)).run answer w.outside).state } := by
  rw [redeliver_apply, ← Action.forEach_map redelivery]
  exact state_forEach_hand answer home _ w

/-- What a redelivery requests is what handling that history requests. -/
theorem requests_redeliver (w : Watching σ) :
    (redeliver (.ofActivity answer (handle home)) w).chronicle.requests =
      ((handleAll home (w.store.groups.map redelivery)).exchanges answer w.outside).map
        (·.request) := by
  rw [redeliver_apply, ← Action.forEach_map redelivery]
  exact requests_forEach_hand answer home _ w

end Watching

/-! ## Tasks -/

/-- A task can be done if what it delivers, if it delivers anything, can be kept. -/
def WatchTask.IsKeyed : WatchTask → Prop
  | .deliver _ body => Watching.IsKeyed body
  | .redeliver => True

instance (task : WatchTask) : Decidable task.IsKeyed :=
  match task with
  | .deliver _ body => inferInstanceAs (Decidable (Watching.IsKeyed body))
  | .redeliver => .isTrue trivial

/-- Where the handler never fails, neither does a task that can be done. -/
theorem Watching.result_perform {σ : Type} {handler : Handler σ}
    (fine : ∀ e s, (handler e s).result = .ok ()) {task : WatchTask} (keyed : task.IsKeyed)
    (w : Watching σ) : (perform handler task w).result = .ok () := by
  cases task with
  | deliver type body => exact result_deliver fine keyed type w
  | redeliver => exact result_redeliver fine w

/-- The object of a group that runs an image, as the cluster shows it. -/
def ServiceGroup.sampleBody (namespaceName name count : Value) : Value :=
  .object [("metadata", .object [("name", name), ("namespace", namespaceName)]),
    ("spec", .object [("count", count), ("image", .str "nginx")])]

end GroupOperator
