import GroupOperator.Operator
import GroupOperator.Proofs.Admission

/-!
# What requests are aimed at

A name and a namespace come out of an object that may have neither, and then the empty text stands
for them.  A request must not be made with that: the name is the last part of the path under which
an object is deleted, and without it the path is that of all objects in the namespace.

A creation is always aimed at something.  Its group has been validated, and the operator does not
begin without a namespace to work in.  A modification requests nothing.  But a deletion is passed on
with the name and the namespace of its group as they are, so

* a notification that an object without a name or a namespace is gone leads to a deletion that is
  aimed at nothing;
* nothing else does.
-/

namespace GroupOperator

/-- A request that says which object it means: neither its name nor its namespace is empty. -/
def Request.IsTargeted : Request → Prop
  | .createWorkload namespaceName w => w.name.isPresent = true ∧ namespaceName.isPresent = true
  | .createPeerFile namespaceName f => f.name ≠ "" ∧ namespaceName.isPresent = true
  | .deleteWorkload name namespaceName _ => name.isPresent = true ∧ namespaceName.isPresent = true

/-- The deletion that is requested for a group. -/
def ServiceGroup.deletion (g : ServiceGroup) : Request :=
  .deleteWorkload g.name g.namespaceName (.str Schema.backgroundPropagation)

/-- An object that is read as a group and can be kept, but has no name or no namespace. -/
structure ServiceGroup.Nowhere (body : Value) (g : ServiceGroup) : Prop where
  /-- It is read as that group. -/
  read : ofBody? body = .ok g
  /-- The group can be kept. -/
  usable : (Key.ofGroup g).unusable? = none
  /-- The object lacks a name or a namespace. -/
  incomplete : ¬ (HasMetadata "name" body ∧ HasMetadata "namespace" body)

/-! ## One event -/

theorem Manifest.peerFileName_ne_empty (name : Value) : peerFileName name ≠ "" := fun h =>
  absurd (String.append_eq_empty_iff.mp h).2 (by decide)

namespace Reconciler

variable {σ : Type} {answer : Answering σ} {home : Value} {e : Event} {s : σ}

/-- Whatever is requested for a group that is not gone is aimed at something. -/
theorem Course.isTargeted {made : List (Exchange σ)} {levels : List Level}
    (h : Course answer home e s made levels) (present : home.isPresent = true)
    (kept : e.kind ≠ .deleted) : ∀ x ∈ made, x.request.IsTargeted := by
  have workload {w : Manifest.Workload} (valid : e.group.IsValid)
      (manifest : Manifest.workload? e.group home = .ok w) :
      (Request.createWorkload home w).IsTargeted :=
    ⟨Manifest.name_of_workload? manifest ▸ (ServiceGroup.isValid_iff.mp valid).1, present⟩
  cases h with
  | rejected | modified => exact List.forall_mem_nil _
  | uncreated _ valid manifest | unowned _ valid manifest =>
    exact List.forall_mem_singleton.mpr (workload valid manifest)
  | owned _ valid manifest =>
    exact List.forall_mem_cons.mpr ⟨workload valid manifest,
      List.forall_mem_singleton.mpr ⟨Manifest.peerFileName_ne_empty _, present⟩⟩
  | deleted deleted => exact absurd deleted kept

/-- So is whatever is requested while it is handled. -/
theorem isTargeted_of_mem_handle (present : home.isPresent = true) (kept : e.kind ≠ .deleted) :
    ∀ x ∈ (handle home e).exchanges answer s, x.request.IsTargeted :=
  (course_handle answer home e s).isTargeted present kept

/-- So is what is requested for a history in which nothing is gone. -/
theorem isTargeted_of_mem_handleAll {events : List Event} (present : home.isPresent = true)
    (kept : ∀ e ∈ events, e.kind ≠ .deleted) :
    ∀ x ∈ (handleAll home events).exchanges answer s, x.request.IsTargeted := by
  induction events generalizing s with
  | nil => exact List.forall_mem_nil _
  | cons e rest ih =>
    obtain ⟨first, others⟩ := List.forall_mem_cons.mp kept
    rw [exchanges_handleAll_cons]
    exact List.forall_mem_append.mpr ⟨isTargeted_of_mem_handle present first, ih others⟩

/-- All that is requested for a group that is gone is its deletion. -/
theorem requests_handle_of_deleted (deleted : e.kind = .deleted) :
    ((handle home e).exchanges answer s).map (·.request) = [e.group.deletion] := by
  obtain ⟨made, levels, hmade, course⟩ := exists_course answer home e s
  rw [hmade]
  cases course with
  | rejected other | uncreated other | unowned other | owned other | modified other =>
    rw [other] at deleted
    cases deleted
  | deleted => rfl

end Reconciler

/-! ## One task -/

namespace ServiceGroup

variable {body : Value} {g : ServiceGroup}

/-- The deletion of a group is aimed at nothing if the object lacks a name or a namespace. -/
theorem isTargeted_deletion_iff (hb : ofBody? body = .ok g) :
    g.deletion.IsTargeted ↔ HasMetadata "name" body ∧ HasMetadata "namespace" body :=
  and_congr (readFrom_of_ofBody? hb).name_iff (readFrom_of_ofBody? hb).namespaceName_iff

end ServiceGroup

namespace Watching

open Reconciler

variable {σ : Type} {answer : Answering σ} {home : Value}

/-- A redelivery requests nothing that is aimed at nothing. -/
theorem isTargeted_of_mem_redeliver (present : home.isPresent = true) (w : Watching σ) :
    ∀ r ∈ (redeliver (.ofActivity answer (handle home)) w).chronicle.requests, r.IsTargeted := by
  rw [requests_redeliver]
  refine List.forall_mem_map.mpr (isTargeted_of_mem_handleAll present fun e he => ?_)
  -- whatever became of a group meanwhile, it is handed over as added
  obtain ⟨g, -, rfl⟩ := List.mem_map.mp he
  exact nofun

/-- What a delivery requests that is aimed at nothing. -/
theorem untargeted_deliver_iff (present : home.isPresent = true) (type body : Value)
    (w : Watching σ) (r : Request) :
    (r ∈ (deliver (.ofActivity answer (handle home)) type body w).chronicle.requests ∧
        ¬ r.IsTargeted) ↔
      isRemoval type = true ∧ ∃ g, ServiceGroup.Nowhere body g ∧ r = g.deletion := by
  constructor
  · rintro ⟨asked, untargeted⟩
    obtain ⟨store, e, accepted, asked⟩ := mem_requests_deliver_iff.mp asked
    rw [Activity.requests_run] at asked
    -- only a deletion escapes validation
    by_cases deleted : e.kind = .deleted
    · obtain ⟨g, hb, usable, acceptance⟩ := Store.acceptance_of_receive accepted
      refine ⟨Store.isRemoval_of_receive accepted deleted, g, ?_⟩
      rw [requests_handle_of_deleted deleted, List.mem_singleton] at asked
      obtain rfl : e.group = g := acceptance.group_eq
      rw [asked, ServiceGroup.isTargeted_deletion_iff hb] at untargeted
      exact ⟨⟨hb, usable, untargeted⟩, asked⟩
    · obtain ⟨x, hx, rfl⟩ := List.mem_map.mp asked
      exact absurd (isTargeted_of_mem_handle present deleted x hx) untargeted
  · rintro ⟨removal, g, nowhere, rfl⟩
    refine ⟨mem_requests_deliver_iff.mpr
      ⟨_, _, Store.receive_of_removal removal nowhere.read nowhere.usable, ?_⟩, ?_⟩
    · rw [Activity.requests_run, requests_handle_of_deleted rfl]
      exact List.mem_singleton_self _
    · rw [ServiceGroup.isTargeted_deletion_iff nowhere.read]
      exact nowhere.incomplete

/-- What a task requests that is aimed at nothing. -/
theorem untargeted_perform_iff (present : home.isPresent = true) (task : WatchTask)
    (w : Watching σ) (r : Request) :
    (r ∈ (perform (.ofActivity answer (handle home)) task w).chronicle.requests ∧
        ¬ r.IsTargeted) ↔
      ∃ body g, task = .deliver (.str EventKind.deleted.name) body ∧
        ServiceGroup.Nowhere body g ∧ r = g.deletion := by
  cases task with
  | deliver type body =>
    refine (untargeted_deliver_iff present type body w r).trans ?_
    simp only [isRemoval, decide_eq_true_eq, WatchTask.deliver.injEq]
    constructor
    · rintro ⟨removal, g, found⟩
      exact ⟨body, g, ⟨removal, rfl⟩, found⟩
    · rintro ⟨body', g, ⟨removal, rfl⟩, found⟩
      exact ⟨removal, g, found⟩
  | redeliver =>
    refine iff_of_false (fun h => h.2 (isTargeted_of_mem_redeliver present w r h.1)) ?_
    rintro ⟨body, g, other, -⟩
    cases other

/-! ## All tasks -/

/-- Does all that a watch is asked to do.  A task that fails is followed by the next one. -/
def performEach (handler : Handler σ) : List WatchTask → Action (Watching σ) Unit
  | [] => .done ()
  | task :: rest => (perform handler task).attempt.bind fun _ => performEach handler rest

variable {handler : Handler σ}

theorem performEach_cons_apply (task : WatchTask) (rest : List WatchTask) (w : Watching σ) :
    performEach handler (task :: rest) w =
      let first := perform handler task w
      let others := performEach handler rest first.state
      ⟨others.result, first.chronicle ++ others.chronicle, others.state⟩ := rfl

/-- **Only deletions are aimed at nothing.**  Whatever a watch is asked to do, on behalf of an
operator that accepts its settings and however requests are answered: a request that lacks a name or
a namespace is the deletion of a group whose object was delivered as gone and lacks one of them.
Each such delivery leads to that request. -/
theorem untargeted_request_iff (settings : Settings)
    (accepted : Operator.misconfiguration? true settings = none) (answer : Answering σ)
    (tasks : List WatchTask) (w : Watching σ) (r : Request) :
    (r ∈ (performEach (Operator.handler settings answer) tasks w).chronicle.requests ∧
        ¬ r.IsTargeted) ↔
      ∃ body g, .deliver (.str EventKind.deleted.name) body ∈ tasks ∧
        ServiceGroup.Nowhere body g ∧ r = g.deletion := by
  have present := (Operator.misconfiguration?_eq_none_iff.mp accepted).2
  induction tasks generalizing w with
  | nil =>
    refine iff_of_false (fun h => List.not_mem_nil h.1) ?_
    rintro ⟨body, g, delivered, -⟩
    exact List.not_mem_nil delivered
  | cons task rest ih =>
    -- a request is one of the first task's or one of the others', which begin wherever it ends
    rw [performEach_cons_apply, Chronicle.requests_append, List.mem_append, or_and_right]
    refine (or_congr (untargeted_perform_iff present task w r) (ih _)).trans ?_
    simp only [List.mem_cons, or_and_right, exists_or, eq_comm]

/-- What becomes of a group that is delivered, redelivered and then said to be gone under no
name. -/
def namelessTasks : List WatchTask :=
  [.deliver .null (ServiceGroup.sampleBody (.str "default") (.str "web") (.int 1)), .redeliver,
    .deliver (.str "DELETED")
      (.object [("metadata", .object [("namespace", .str "default")])])]

theorem namelessTasks_untargeted :
    Operator.misconfiguration? true { Settings.ofEnvironment [] with resyncPeriod := .int 60 } =
      none ∧
    .deleteWorkload (.str "") (.str "default") (.str "Background") ∈
      (performEach (Operator.handler
        { Settings.ofEnvironment [] with resyncPeriod := .int 60 } Cluster.answer)
        namelessTasks { outside := Cluster.empty }).chronicle.requests ∧
    ¬ (Request.deleteWorkload (.str "") (.str "default") (.str "Background")).IsTargeted := by
  have accepted : Operator.misconfiguration? true
    { Settings.ofEnvironment [] with resyncPeriod := .int 60 } = none := by decide
  refine ⟨accepted, (untargeted_request_iff _ accepted Cluster.answer namelessTasks _ _).mpr
    ⟨_, _, List.mem_of_getElem? (i := 2) rfl, ⟨rfl, by decide, ?_⟩, rfl⟩⟩
  rintro ⟨⟨v, hv, -⟩, -⟩
  cases hv

end Watching

end GroupOperator
