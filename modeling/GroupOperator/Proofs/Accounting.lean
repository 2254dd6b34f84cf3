import GroupOperator.Proofs.Course
import GroupOperator.Proofs.Reception
import GroupOperator.Watch.Serving

/-!
# Every event is accounted for

However requests are answered, the handling of an event ends normally, and either its work is done
or exactly one alarm says that it is not.  Two things are to be told apart from the requests alone.

* The work is *completed*: an addition has created both the workload and the peer file, a deletion
  has deleted the workload; a modification asks for nothing.
* The cluster had the workload already: the gateway came back from its creation with a conflict.
  This is a warning, everything else is an error.

As nothing leaves `handle`, no delivery and no redelivery fails on its account, and the task that
paces the redelivery goes on for as long as the watch is served.
-/

namespace GroupOperator

/-! ## Work done and conflicts met -/

/-- Whether a workload is to be created. -/
def Request.createsWorkload : Request → Bool
  | .createWorkload .. => true
  | _ => false

/-- Whether a peer file is to be created. -/
def Request.createsPeerFile : Request → Bool
  | .createPeerFile .. => true
  | _ => false

/-- Whether a workload is to be deleted. -/
def Request.deletesWorkload : Request → Bool
  | .deleteWorkload .. => true
  | _ => false

section

variable {σ : Type} (answer : Answering σ)

/-- Whether something is done as requested. -/
def Exchange.isGranted (x : Exchange σ) : Bool :=
  (x.reply answer).isOk

/-- Whether the gateway comes back from a creation of a workload with a conflict. -/
def Exchange.isConflict (x : Exchange σ) : Bool :=
  match x.request with
  | .createWorkload namespaceName w =>
    match ((Gateway.createWorkload w namespaceName).run answer x.before).result with
    | .error f => f.isConflict
    | .ok _ => false
  | _ => false

/-- Whether requests do all the work of an event of that kind. -/
def EventKind.isCompletedBy (made : List (Exchange σ)) : EventKind → Bool
  | .added => (made.any fun x => x.request.createsWorkload && x.isGranted answer) &&
      made.any fun x => x.request.createsPeerFile && x.isGranted answer
  | .modified => true
  | .deleted => made.any fun x => x.request.deletesWorkload && x.isGranted answer

/-- The alarms that an event of that kind should raise, given the requests made for it. -/
def EventKind.dueAlarms (made : List (Exchange σ)) (kind : EventKind) : List Level :=
  if kind.isCompletedBy answer made then []
  else if made.any (·.isConflict answer) then [.warning]
  else [.error]

end

namespace Reconciler

variable {σ : Type} {answer : Answering σ} {home : Value}

/-- A creation of a workload that failed is told as a warning if it is a conflict, else as an
error. -/
theorem levelOfFailure_eq {s : σ} {w : Manifest.Workload} {f : Failure}
    (failed : (answer (.createWorkload home w) s).1 = .error f) :
    levelOfFailure home w f =
      if (Exchange.mk (.createWorkload home w) s).isConflict answer then .warning else .error := by
  simp only [levelOfFailure, Exchange.isConflict, Gateway.createWorkload,
    Activity.run_request_apply, failed, Activity.run_raised_apply]

theorem not_isConflict_of_ok {s : σ} {w : Manifest.Workload} {m : Metadata}
    (created : (answer (.createWorkload home w) s).1 = .ok m) :
    (Exchange.mk (.createWorkload home w) s).isConflict answer = false := by
  simp only [Exchange.isConflict, Gateway.createWorkload, Activity.run_request_apply, created,
    Activity.run_done_apply]

theorem isGranted_of_ok {r : Request} {s : σ} {a : r.Answer} (h : (answer r s).1 = .ok a) :
    (Exchange.mk r s).isGranted answer = true := by
  rw [Exchange.isGranted, Exchange.reply, h]
  rfl

theorem isGranted_of_error {r : Request} {s : σ} {f : Failure} (h : (answer r s).1 = .error f) :
    (Exchange.mk r s).isGranted answer = false := by
  rw [Exchange.isGranted, Exchange.reply, h]
  rfl

@[simp] theorem not_isConflict_createPeerFile {namespaceName : Value} {file : Manifest.PeerFile}
    {s : σ} : (Exchange.mk (.createPeerFile namespaceName file) s).isConflict answer = false := rfl

@[simp] theorem not_isConflict_deleteWorkload {name namespaceName policy : Value} {s : σ} :
    (Exchange.mk (.deleteWorkload name namespaceName policy) s).isConflict answer = false := rfl

/-- Whichever course handling takes, the alarms are those that are due. -/
theorem Course.alarms_eq {e : Event} {s : σ} {made : List (Exchange σ)} {levels : List Level}
    (h : Course answer home e s made levels) : levels = e.kind.dueAlarms answer made := by
  cases h with
  | rejected added invalid =>
    rw [added]
    rfl
  | @uncreated w f added valid manifest failed =>
    rw [added, levelOfFailure_eq failed]
    simp only [EventKind.dueAlarms, EventKind.isCompletedBy, List.any_cons, List.any_nil,
      isGranted_of_error failed, Bool.and_false, Bool.or_false, Bool.false_eq_true, if_false]
    split <;> rfl
  | unowned added valid manifest created nobody =>
    rw [added]
    simp [EventKind.dueAlarms, EventKind.isCompletedBy, Request.createsPeerFile,
      not_isConflict_of_ok created]
  | @owned w m o added valid manifest created owner =>
    rw [added]
    cases hf : (answer (.createPeerFile home (Manifest.peerFile e.group home [o]))
      (answer (.createWorkload home w) s).2).1 with
    | ok n =>
      simp [EventKind.dueAlarms, EventKind.isCompletedBy, Request.createsWorkload,
        Request.createsPeerFile, isGranted_of_ok created, isGranted_of_ok hf, heardOfReply]
    | error f =>
      simp [EventKind.dueAlarms, EventKind.isCompletedBy, Request.createsPeerFile,
        isGranted_of_error hf, not_isConflict_of_ok created, heardOfReply]
  | modified modified =>
    rw [modified]
    rfl
  | deleted deleted =>
    rw [deleted]
    cases hd : (answer (.deleteWorkload e.group.name e.group.namespaceName
      (.str Schema.backgroundPropagation)) s).1 with
    | ok u =>
      simp [EventKind.dueAlarms, EventKind.isCompletedBy, Request.deletesWorkload,
        isGranted_of_ok hd, heardOfReply]
    | error f =>
      simp [EventKind.dueAlarms, EventKind.isCompletedBy, isGranted_of_error hd, heardOfReply]

end Reconciler

/-! ## The redelivery goes on -/

namespace Serving

variable {σ : Type} {handler : Handler σ}

theorem react_tick_apply (w : Watch) (s : Serving σ) (h : s.pacer = .pausing)
    (fine : (Watching.redeliver handler s.watching).result = .ok ()) :
    (react w handler .tick s).state.pacer = .pausing := by
  simp [react, tick, Action.bind, Action.state, h, onWatching, Action.attempt, Action.within, fine,
    pause, Action.emit, Action.update]

/-- Nothing that happens ends the pacing task, if the handler never fails. -/
theorem pacer_react (fine : ∀ e s, (handler e s).result = .ok ()) (w : Watch) (h : Happening)
    (s : Serving σ) (pausing : s.pacer = .pausing) :
    (react w handler h s).state.pacer = .pausing := by
  cases h with
  | tick => exact react_tick_apply w s pausing (Watching.result_redeliver fine s.watching)
  | startup | login _ | ready | notification _ _ | wait _ | failed _ | cancel _ | signal _ =>
    exact pausing

/-- The task that paces the redelivery outlives whatever happens, if the handler never fails. -/
theorem pacer_serve (fine : ∀ e s, (handler e s).result = .ok ()) {w : Watch}
    (redelivers : w.redelivers? = .ok true) (script : List Happening) (s : Serving σ) :
    (serve w handler script s).state.pacer = .pausing := by
  rw [serve_apply_of_ok redelivers]
  exact Action.state_forEach (p := fun t : Serving σ => t.pacer = .pausing)
    (fun h t => pacer_react fine w h t) rfl

end Serving

/-! ## Nothing escapes and nothing is dropped silently -/

namespace Reconciler

/-- **Every event is accounted for.**  However requests are answered, the handling of an event ends
normally, and the alarms it raises are those that are due: none if the work was completed, else one,
a warning if the creation of the workload met a conflict and an error in every other case.  So with
this handler no row of deliveries and redeliveries fails, as long as what is delivered can be kept,
and the task that paces the redelivery is still there after anything that may happen. -/
theorem every_event_accounted_for {σ : Type} (answer : Answering σ) (home : Value) :
    (∀ (e : Event) (s : σ),
      ((handle home e).run answer s).result = .ok () ∧
      ((handle home e).run answer s).chronicle.alarms.map (·.level) =
        e.kind.dueAlarms answer ((handle home e).exchanges answer s)) ∧
    (∀ (tasks : List WatchTask) (w : Watching σ), (∀ task ∈ tasks, task.IsKeyed) →
      (Action.forEach (Watching.perform (.ofActivity answer (handle home))) tasks w).result =
        .ok ()) ∧
    ∀ (watch : Watch) (script : List Happening) (s : Serving σ), watch.redelivers? = .ok true →
      (Serving.serve watch (.ofActivity answer (handle home)) script s).state.pacer = .pausing := by
  have fine (e : Event) (s : σ) :
      ((Handler.ofActivity answer (handle home)) e s).result = .ok () :=
    result_handle answer home s e
  refine ⟨fun e s => ⟨result_handle answer home s e, ?_⟩, fun tasks w keyed => ?_, ?_⟩
  · exact (course_handle answer home e s).alarms_eq
  · exact Action.result_forEach (fun task ht w => Watching.result_perform fine (keyed task ht) w) w
  · exact fun watch script s redelivers => Serving.pacer_serve fine redelivers script s

/-- Replies to the next creations of a workload: one without a name, a conflict, and a failure that
is nobody's in particular. -/
def troubledStage : StagedCluster where
  workloadReplies := [some (.ok ⟨.null, .null, .null⟩), some (.error Cluster.conflict),
    some (.error (.badValue "out of order"))]

/-- A group that comes, changes and goes, redelivered meanwhile. -/
def troubledTasks : List WatchTask :=
  [.deliver .null (ServiceGroup.sampleBody (.str "default") (.str "web") (.int 1)), .redeliver,
    .deliver (.str "MODIFIED") (ServiceGroup.sampleBody (.str "default") (.str "web") (.int 2)),
    .redeliver, .redeliver,
    .deliver (.str "DELETED") (ServiceGroup.sampleBody (.str "default") (.str "web") (.int 2))]

theorem troubles_accounted_for :
    ((handle (.str "default") (.sample .added "default" "web" 1)).run StagedCluster.answer
        troubledStage).chronicle.alarms.map (·.level) = [.error] ∧
      ((handle (.str "default") (.sample .added "default" "web" 1)).run StagedCluster.answer
        { troubledStage with workloadReplies := troubledStage.workloadReplies.tail }
        ).chronicle.alarms.map (·.level) = [.warning] ∧
      (∀ task ∈ troubledTasks, task.IsKeyed) ∧
      (Action.forEach
          (Watching.perform (.ofActivity StagedCluster.answer (handle (.str "default"))))
        troubledTasks { outside := troubledStage }).result = .ok () ∧
      ({ resyncPeriod := .int 30 } : Watch).redelivers? = .ok true ∧
      (Serving.serve { resyncPeriod := .int 30 }
        (.ofActivity StagedCluster.answer (handle (.str "default")))
        [.notification .null (ServiceGroup.sampleBody (.str "default") (.str "web") (.int 1)),
          .tick, .tick, .tick]
        { watching := { outside := troubledStage } }).state.pacer = .pausing := by
  obtain ⟨single, row, paced⟩ := every_event_accounted_for StagedCluster.answer (.str "default")
  have keyed : ∀ task ∈ troubledTasks, task.IsKeyed := by decide
  refine ⟨(single _ _).2.trans (by decide), (single _ _).2.trans (by decide), keyed,
    row _ _ keyed, rfl, paced _ _ _ rfl⟩

end Reconciler

end GroupOperator
