import GroupOperator.Proofs.Healing
import GroupOperator.Proofs.Redelivery
import Mathlib.Logic.Function.Iterate

/-!
# Redelivering twice

A redelivery asks for the workload of every valid group that is remembered, whether it is there or
not.  So the cluster is left alone exactly if all of them are there (`Cluster.Settled`), and one
redelivery settles it: an addition takes nothing away, and leaves a workload of the name it asked
for, if not its own then one that was in its way (`Cluster.settled_redelivered`).  It does not
matter what else the cluster holds and how it came to, nor that several groups may share a name.

From then on a redelivery is a row of refusals, one for each valid group
(`Watching.redelivery_idempotent`), however many there are (`Watching.iterate_redeliver`).  A peer
file that is missing stays missing: it is asked for only behind a workload that was created.
-/

namespace GroupOperator

open Watching (redelivery)

namespace Cluster

variable {home : Value} {c : Cluster} {g : ServiceGroup}

/-- Where a workload of its name stands, a valid group has nothing left to ask for. -/
def HasFor (home : Value) (c : Cluster) (g : ServiceGroup) : Prop :=
  g.IsValid → (c.workload? home g.name).isSome = true

/-- There is a workload of the name of every valid group in a row. -/
def Settled (home : Value) (c : Cluster) (groups : List ServiceGroup) : Prop :=
  ∀ g ∈ groups, c.HasFor home g

/-- A cluster has been asked for the workload of a group in the state `c`, has refused because the
workload exists, and is still in that state. -/
structure Refused (home : Value) (c : Cluster) (g : ServiceGroup) (x : Exchange Cluster) :
    Prop where
  /-- The workload is that of the group, and to stand in the operator's namespace. -/
  request : ∃ w, Manifest.workload? g home = .ok w ∧ x.request = .createWorkload home w
  /-- The state in which it was asked for. -/
  before : x.before = c
  /-- The refusal. -/
  reply : x.reply answer = .error conflict
  /-- The state it left. -/
  after : x.after answer = c

/-! ## One group -/

/-- Who asks for a workload whose name is taken is refused. -/
theorem answer_of_held {w : Manifest.Workload} (manifest : Manifest.workload? g home = .ok w)
    (held : (c.workload? home g.name).isSome = true) :
    answer (.createWorkload home w) c = (.error conflict, c) := by
  obtain ⟨o, present⟩ := Option.isSome_iff_exists.mp held
  rw [← Manifest.name_of_workload? manifest] at present
  exact createWorkload_of_some present

/-- A group that has its workload is redelivered without effect. -/
theorem HasFor.settle_eq (has : c.HasFor home g) :
    Reconciler.settle answer home c (redelivery g) = c := by
  have change := change_settle home c (redelivery g)
  generalize Reconciler.settle answer home c (redelivery g) = c' at change ⊢
  cases change with
  | materialized added valid manifest absent =>
    have held := has valid
    rw [show c.workload? home g.name = none from absent] at held
    cases held
  | dissolved deleted present => cases deleted
  | kept _ _ => rfl

/-- Nothing is asked for on behalf of a group that is not valid. -/
theorem exchanges_of_invalid (invalid : ¬ g.IsValid) (c : Cluster) :
    (Reconciler.handle home (redelivery g)).exchanges answer c = [] := by
  obtain ⟨made, levels, hmade, course⟩ := Reconciler.exists_course answer home (redelivery g) c
  rw [hmade]
  cases course with
  | rejected added invalid => rfl
  | uncreated added valid | unowned added valid | owned added valid => exact absurd valid invalid
  | modified modified => cases modified
  | deleted deleted => cases deleted

/-- On behalf of a valid group that has its workload, this is asked for once more and refused. -/
theorem HasFor.refused (has : c.HasFor home g) (valid : g.IsValid) :
    ∃ x, (Reconciler.handle home (redelivery g)).exchanges answer c = [x] ∧ Refused home c g x := by
  obtain ⟨made, levels, hmade, course⟩ := Reconciler.exists_course answer home (redelivery g) c
  rw [hmade]
  cases course with
  | rejected added invalid => exact absurd valid invalid
  | @uncreated w f added _ manifest failed =>
    have refusal := answer_of_held manifest (has valid)
    refine ⟨_, rfl, ⟨w, manifest, rfl⟩, rfl, ?_, ?_⟩
    · exact congrArg Prod.fst refusal
    · exact congrArg Prod.snd refusal
  | unowned added _ manifest created | owned added _ manifest created =>
    rw [answer_of_held manifest (has valid)] at created
    cases created
  | modified modified => cases modified
  | deleted deleted => cases deleted

/-! ## All of them -/

/-- Groups that have their workloads are redelivered without effect. -/
theorem Settled.afterEvents_eq {groups : List ServiceGroup} (settled : c.Settled home groups) :
    c.afterEvents home (groups.map redelivery) = c := by
  rw [afterEvents_eq_foldl]
  induction groups with
  | nil => rfl
  | cons g rest ih =>
    obtain ⟨first, others⟩ := List.forall_mem_cons.mp settled
    rw [List.map_cons, List.foldl_cons, first.settle_eq]
    exact ih others

/-- After a redelivery all groups have their workloads. -/
theorem settled_redelivered (home : Value) (c : Cluster) (groups : List ServiceGroup) :
    (c.afterEvents home (groups.map redelivery)).Settled home groups := by
  intro g hg valid
  apply held_afterEvents Watching.kind_of_mem_redeliveries
  exact ⟨_, List.mem_map_of_mem hg, Event.asksFor_iff.mpr ⟨rfl, rfl, valid⟩⟩

/-- A redelivery leaves a cluster alone exactly if all groups have their workloads. -/
theorem afterEvents_redelivered_eq_iff {groups : List ServiceGroup} :
    c.afterEvents home (groups.map redelivery) = c ↔ c.Settled home groups := by
  constructor
  · intro same
    have settled := settled_redelivered home c groups
    rw [same] at settled
    exact settled
  · exact Settled.afterEvents_eq

/-- The redelivery of groups that have their workloads is refused once for each valid one. -/
theorem Settled.refused {groups : List ServiceGroup} (settled : c.Settled home groups) :
    List.Forall₂ (Refused home c) (groups.filter fun g => g.IsValid)
      ((Reconciler.handleAll home (groups.map redelivery)).exchanges answer c) := by
  induction groups with
  | nil => exact .nil
  | cons g rest ih =>
    obtain ⟨first, others⟩ := List.forall_mem_cons.mp settled
    rw [List.map_cons, Reconciler.exchanges_handleAll_cons, Reconciler.state_handle,
      first.settle_eq]
    by_cases valid : g.IsValid
    · obtain ⟨x, made, refused⟩ := first.refused valid
      rw [List.filter_cons_of_pos (by simpa using valid), made]
      exact .cons refused (ih others)
    · rw [List.filter_cons_of_neg (by simpa using valid), exchanges_of_invalid valid]
      exact ih others

end Cluster

namespace Watching

open Reconciler

/-- A redelivery leaves what is remembered alone, and handles it as a history. -/
theorem state_redeliver_handler (home : Value) (w : Watching Cluster) :
    (redeliver (handler home) w).state =
      ⟨w.store, w.outside.afterEvents home (w.store.groups.map redelivery)⟩ :=
  state_redeliver Cluster.answer home w

/-- Where all remembered groups have their workloads, a redelivery leaves everything as it is. -/
theorem state_redeliver_of_settled {home : Value} {w : Watching Cluster}
    (settled : w.outside.Settled home w.store.groups) : (redeliver (handler home) w).state = w := by
  rw [state_redeliver_handler, settled.afterEvents_eq]

/-- After a redelivery all remembered groups have their workloads. -/
theorem settled_redeliver (home : Value) (w : Watching Cluster) :
    (redeliver (handler home) w).state.outside.Settled home
      (redeliver (handler home) w).state.store.groups := by
  rw [state_redeliver_handler]
  exact Cluster.settled_redelivered home w.outside w.store.groups

/-- Any number of redeliveries, if it is not none, does what one does. -/
theorem iterate_redeliver (home : Value) (w : Watching Cluster) (n : Nat) :
    (fun w : Watching Cluster => (redeliver (handler home) w).state)^[n + 1] w =
      (redeliver (handler home) w).state := by
  rw [Function.iterate_succ_apply]
  exact Function.iterate_fixed (state_redeliver_of_settled (settled_redeliver home w)) n

/-- **A second redelivery changes nothing.**  Whatever is remembered and whatever the cluster holds,
after one redelivery another one comes to its end and leaves the watch and the whole cluster as they
are.  All that it requests is the workload of each valid group that is remembered, once for each and
in the order of the store, and each is refused because the workload exists. -/
theorem redelivery_idempotent (home : Value) (w : Watching Cluster) :
    let once := (redeliver (handler home) w).state
    let again := redeliver (handler home) once
    let made := (handleAll home (once.store.groups.map redelivery)).exchanges Cluster.answer
      once.outside
    once.store = w.store ∧ again.result = .ok () ∧ again.state = once ∧
      again.chronicle.requests = made.map (·.request) ∧
      List.Forall₂ (Cluster.Refused home once.outside) (w.store.groups.filter fun g => g.IsValid)
        made := by
  intro once again made
  have settled : once.outside.Settled home once.store.groups := settled_redeliver home w
  have store : once.store = w.store := by
    have reached : once = _ := state_redeliver_handler home w
    rw [reached]
  refine ⟨store, ?_, state_redeliver_of_settled settled, ?_, ?_⟩
  · exact result_redeliver (fun e c => result_handle Cluster.answer home c e) once
  · exact requests_redeliver Cluster.answer home once
  · rw [← store]
    exact settled.refused

end Watching

end GroupOperator
