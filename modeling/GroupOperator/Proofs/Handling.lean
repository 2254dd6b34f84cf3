import GroupOperator.Reconciler.History

/-!
# What handling an event does

Handling an event is an activity full of records, and whoever asks what it does to a cluster does
not want to meet them.  Here the records are read away once, for any way of answering requests:
handling ends normally (`result_handle`), and the state it leaves is `settle`, which says only which
request is made after which answer.
-/

namespace GroupOperator

/-! ## Where running leads -/

namespace Activity

variable {σ α β : Type} (answer : Answering σ)

@[simp] theorem tell_bind (r : Record) (k : Unit → Activity β) :
    (tell r).bind k = .note r (k ()) := rfl

@[simp] theorem state_run_done (a : α) (s : σ) : ((Activity.done a).run answer s).state = s := rfl

@[simp] theorem state_run_raised (f : Failure) (s : σ) :
    ((.raised f : Activity α).run answer s).state = s := rfl

@[simp] theorem state_run_tell (r : Record) (s : σ) :
    ((Activity.tell r).run answer s).state = s := rfl

@[simp] theorem state_run_note (r : Record) (next : Activity α) (s : σ) :
    ((Activity.note r next).run answer s).state = (next.run answer s).state := by
  simp only [run, Action.bind, Action.tell, Action.emit]

@[simp] theorem state_run_request (r : Request) (next : r.Reply → Activity α) (s : σ) :
    ((Activity.request r next).run answer s).state =
      ((next (answer r s).1).run answer (answer r s).2).state := by
  simp only [run, Action.bind, Action.emit]

/-- Handing over a failure commutes with running. -/
theorem run_attempt (p : Activity α) : p.attempt.run answer = (p.run answer).attempt := by
  induction p with
  | done a => rfl
  | raised f => rfl
  | note r next ih =>
    funext s
    simp only [attempt, run, ih, Action.bind, Action.attempt, Action.tell, Action.emit]
  | request r next ih =>
    funext s
    simp only [attempt, run, ih, Action.bind, Action.attempt, Action.emit]

end Activity

namespace Reconciler

variable {σ : Type} (answer : Answering σ) (home : Value)

/-! ## The state that handling leaves

The functions below are the program without its records.  They are stated for any state that answers
requests, so that they also speak of clusters whose replies are prepared. -/

/-- The state after the creation of a peer file for a created workload. -/
def settlePeerFile (g : ServiceGroup) (workload : Identity) (s : σ) : σ :=
  match Manifest.owner? workload with
  | .ok owner => (answer (.createPeerFile home (Manifest.peerFile g home [owner])) s).2
  | .error _ => s

/-- The state after the creation of what belongs to a valid group. -/
def settleWorkload (g : ServiceGroup) (s : σ) : σ :=
  match Manifest.workload? g home with
  | .ok workload =>
    match answer (.createWorkload home workload) s with
    | (.ok m, s) => settlePeerFile answer home g (Gateway.identityOf m home) s
    | (.error _, s) => s
  | .error _ => s

/-- The state after an event has been handled. -/
def settle (s : σ) (e : Event) : σ :=
  match e.kind with
  | .added => if e.group.IsValid then settleWorkload answer home e.group s else s
  | .modified => s
  | .deleted =>
    (answer (.deleteWorkload (Manifest.workloadName e.group.name) e.group.namespaceName
      (.str Schema.backgroundPropagation)) s).2

theorem state_createPeerFile (g : ServiceGroup) (workload : Identity) (s : σ) :
    ((createPeerFile home g workload).run answer s).state =
      settlePeerFile answer home g workload s := by
  cases ho : Manifest.owner? workload with
  | error f => simp [createPeerFile, settlePeerFile, ho, Activity.ofExcept, Activity.bind]
  | ok owner =>
    simp only [createPeerFile, settlePeerFile, ho, Activity.ofExcept, Activity.bind_eq,
      Activity.bind, Gateway.createPeerFile, Activity.attempt, Activity.state_run_request]
    rcases (answer (.createPeerFile home (Manifest.peerFile g home [owner])) s).1 with f | m
    · simp only [Activity.attempt, Activity.bind]
      split <;> rfl
    · rfl

theorem state_materialize (g : ServiceGroup) (s : σ) :
    ((materialize home g).run answer s).state = settleWorkload answer home g s := by
  cases hw : Manifest.workload? g home with
  | error f => simp [materialize, settleWorkload, hw, Activity.ofExcept, Activity.bind]
  | ok w =>
    rcases hr : answer (.createWorkload home w) s with ⟨f | m, s'⟩
    · simp only [materialize, settleWorkload, hw, hr, Activity.ofExcept, Activity.bind_eq,
        Activity.bind, Gateway.createWorkload, Activity.attempt, Activity.state_run_request]
      -- whatever the failure is reported as, all that follows is a record
      split
      · rename_i h
        cases h
      · split <;> rfl
      · rfl
    · simp [materialize, settleWorkload, hw, hr, Activity.ofExcept, Activity.bind,
        Gateway.createWorkload, Activity.attempt, state_createPeerFile]

theorem state_respond (s : σ) (e : Event) :
    ((respond home e).run answer s).state = settle answer home s e := by
  rcases e with ⟨kind, g, old⟩
  cases kind with
  | added =>
    simp only [respond, added, settle, Activity.bind_eq, Activity.tell_bind,
      Activity.state_run_note]
    cases hr : g.reject? with
    | some r =>
      have hv : ¬ g.IsValid := by simp [ServiceGroup.IsValid, hr]
      simp only [if_neg hv, Activity.state_run_tell]
    | none =>
      have hv : g.IsValid := hr
      simp only [if_pos hv, Activity.state_run_note, state_materialize]
  | modified => rfl
  | deleted =>
    simp only [respond, deleted, settle, Activity.bind_eq, Activity.tell_bind, Activity.bind,
      Gateway.deleteWorkload, Activity.attempt, Activity.state_run_note, Activity.state_run_request]
    rcases (answer (.deleteWorkload (Manifest.workloadName g.name) g.namespaceName
      (.str Schema.backgroundPropagation)) s).1 with f | u
    · simp only [Activity.attempt, Activity.bind]
      split <;> rfl
    · rfl

/-- Handling takes the cluster where the response to the event takes it. -/
theorem state_handle (s : σ) (e : Event) :
    ((handle home e).run answer s).state = settle answer home s e := by
  rw [← state_respond]
  simp only [handle, Activity.bind_eq, Activity.run_bind, Activity.run_attempt, Action.bind,
    Action.attempt]
  cases ((respond home e).run answer s).result <;> rfl

/-- No failure leaves the handling of an event. -/
theorem result_handle (s : σ) (e : Event) : ((handle home e).run answer s).result = .ok () := by
  simp only [handle, Activity.bind_eq, Activity.run_bind, Activity.run_attempt, Action.bind,
    Action.attempt]
  cases ((respond home e).run answer s).result <;> rfl

/-- A history is handled event after event. -/
theorem state_handleAll (s : σ) (history : List Event) :
    ((handleAll home history).run answer s).state = history.foldl (settle answer home) s := by
  induction history generalizing s with
  | nil => rfl
  | cons e rest ih =>
    rw [handleAll, Activity.run_bind, Action.bind_apply_of_ok (result_handle answer home s e),
      state_handle]
    exact ih _

end Reconciler

end GroupOperator
