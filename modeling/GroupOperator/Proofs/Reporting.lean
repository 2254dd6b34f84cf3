import GroupOperator.Proofs.Accounting

/-!
# What a failed request is reported as

The gateway makes one request for every change, and what that fails in is meant to come back as a
failed call: it names the object and the namespace, keeps the failure, and has the status that the
API gave, if it gave one.  The gateway knows two kinds of failures, refusals by the API and failures
of the transport (`Failure.isReported`).  Every other failure passes through it as it is
(`Gateway.run_perform`).

Whoever asked for the change tells of a failed call only.  That matters most where a workload has
been created and its peer file cannot be: the workload is left in place, and a record says so
(`Reconciler.leftInPlace`).  If the failure is no failed call, nothing is said of the workload, and
the record is that of a failure that nobody provided for.
-/

namespace GroupOperator

/-! ## Reports -/

namespace Request

/-- What a request does, as a failed call says it. -/
def operation : Request → String
  | .createWorkload .. => "create Deployment"
  | .createPeerFile .. => "create ConfigMap"
  | .deleteWorkload .. => "delete Deployment"

/-- The name of the object that a request is about. -/
def objectName : Request → Value
  | .createWorkload _ w => w.name
  | .createPeerFile _ f => .str f.name
  | .deleteWorkload name _ _ => name

/-- The namespace that a request is made in. -/
def namespaceName : Request → Value
  | .createWorkload namespaceName _ | .createPeerFile namespaceName _
  | .deleteWorkload _ namespaceName _ => namespaceName

end Request

namespace Failure

/-- The status that the API gave, if the failure is its refusal. -/
def apiStatus : Failure → Value
  | .refused status _ _ => status
  | _ => .null

/-- Whether a failure is of a kind that the gateway reports: the API refused, or the transport
failed. -/
def isReported : Failure → Bool
  | .refused .. => true
  | f => f.isTransport

/-- The failed call that says what is to be said of a request that failed. -/
def reportOf (r : Request) (f : Failure) : Failure :=
  .call (.str r.operation) r.objectName r.namespaceName f f.apiStatus

/-- What a failure is blamed on where failed calls are told: the failure itself if the gateway
reports it, and if it is a failed call to begin with, what that was caused by. -/
def blamed? : Failure → Option Failure
  | .call _ _ _ cause _ => some cause
  | f => if f.isReported then some f else none

/-- No failure is a report of itself. -/
theorem ne_reportOf (r : Request) (f : Failure) : f ≠ reportOf r f := by
  intro same
  have size := congrArg sizeOf same
  simp only [reportOf, call.sizeOf_spec] at size
  omega

end Failure

/-! ## The gateway -/

namespace Gateway

/-- What a change gives back: what a created object is known by. -/
abbrev Result : Request → Type
  | .createWorkload .. | .createPeerFile .. => Identity
  | .deleteWorkload .. => Unit

/-- What an answer comes to. -/
def Result.ofAnswer : (r : Request) → r.Answer → Result r
  | .createWorkload namespaceName _, m | .createPeerFile namespaceName _, m =>
    identityOf m namespaceName
  | .deleteWorkload .., () => ()

/-- The operation of the gateway that makes a request. -/
def perform : (r : Request) → Activity (Result r)
  | .createWorkload namespaceName w => createWorkload w namespaceName
  | .createPeerFile namespaceName f => createPeerFile f namespaceName
  | .deleteWorkload name namespaceName policy => deleteWorkload name namespaceName policy

/-- What the gateway makes of the failure of a request. -/
def reported (r : Request) (f : Failure) : Failure :=
  if f.isReported then f.reportOf r else f

theorem report_eq (r : Request) (f : Failure) :
    report r.operation r.objectName r.namespaceName f = reported r f := by
  cases f <;> rfl

/-- A request made once: what is granted is finished, and what fails is reported. -/
def once {α : Type} (r : Request) (finish : r.Answer → α) : Activity α :=
  .request r fun
    | .ok a => .done (finish a)
    | .error f => .raised (reported r f)

/-- Every operation of the gateway is its request made once. -/
theorem perform_eq (r : Request) : perform r = once r (Result.ofAnswer r) := by
  have told := report_eq r
  cases r with
  | createWorkload _ _ | createPeerFile _ _ | deleteWorkload _ _ _ =>
    refine congrArg (Activity.request _) (funext fun reply => ?_)
    cases reply with
    | ok a => rfl
    | error f => exact congrArg Activity.raised (told f)

variable {σ : Type} (answer : Answering σ) (s : σ)

/-- What an operation of the gateway does: it makes its request, and nothing else. -/
theorem run_perform (r : Request) :
    (perform r).run answer s =
      ⟨match (answer r s).1 with
        | .ok a => .ok (Result.ofAnswer r a)
        | .error f => .error (reported r f),
        [.requested r], (answer r s).2⟩ := by
  rw [perform_eq, once, Activity.run_request_apply]
  cases (answer r s).1 <;> rfl

end Gateway

/-! ## A workload without its peer file -/

namespace Reconciler

/-- The record that a workload is left in place, its peer file having failed. -/
def leftInPlace (home : Value) (g : ServiceGroup) (workload : Identity) (cause : Failure) :
    Record :=
  record .error ("Failed to create ConfigMap " ++ Manifest.peerFileName g.name ++
    " in namespace " ++ home.text ++ " for ServiceGroup " ++ g.name.text ++ ": " ++
    cause.message ++ "; Deployment " ++ workload.name.text ++ " (uid " ++ workload.uid.text ++
    ") was left in place")

section

variable {σ : Type} {answer : Answering σ} {home : Value} {s : σ} {e : Event} {f : Failure}

/-- A peer file that fails ends in the record that its workload is left in place, or in the failure
itself. -/
theorem run_createPeerFile_of_error {g : ServiceGroup} {workload : Identity} {o : Manifest.Owner}
    (owner : Manifest.owner? workload = .ok o)
    (failed : (answer (.createPeerFile home (Manifest.peerFile g home [o])) s).1 = .error f) :
    (createPeerFile home g workload).run answer s =
      ⟨if f.blamed? = none then .error f else .ok (),
        .requested (.createPeerFile home (Manifest.peerFile g home [o])) ::
          (f.blamed?.map fun cause => .told (leftInPlace home g workload cause)).toList,
        (answer (.createPeerFile home (Manifest.peerFile g home [o])) s).2⟩ := by
  simp only [createPeerFile, owner, Activity.ofExcept, Activity.bind_eq, Activity.bind,
    Gateway.createPeerFile, Activity.attempt, Activity.run_request_apply, failed]
  cases f <;> rfl

/-- Where the peer file of an added group fails, one alarm sounds, and it tells of the workload
unless the failure is neither reported nor a failed call. -/
theorem alarms_of_failed_peerFile {w : Manifest.Workload} {m : Metadata} {o : Manifest.Owner}
    (added : e.kind = .added) (valid : e.group.IsValid)
    (manifest : Manifest.workload? e.group home = .ok w)
    (created : (answer (.createWorkload home w) s).1 = .ok m)
    (owner : Manifest.owner? (Gateway.identityOf m home) = .ok o)
    (failed : (answer (.createPeerFile home (Manifest.peerFile e.group home [o]))
      (answer (.createWorkload home w) s).2).1 = .error f) :
    ((handle home e).run answer s).chronicle.alarms =
      [match f.blamed? with
        | some cause => leftInPlace home e.group (Gateway.identityOf m home) cause
        | none => unforeseen e f] := by
  have accepted : e.group.reject? = none := valid
  rw [alarms_handle_eq]
  simp only [respond, added, Reconciler.added, accepted, materialize, manifest, Activity.bind_eq,
    Activity.tell_bind, Activity.run_note_apply, Activity.ofExcept, Activity.bind,
    Gateway.createWorkload, Activity.attempt, Activity.run_request_apply, created,
    run_createPeerFile_of_error owner failed]
  cases f.blamed? <;> rfl

/-- A request for a peer file that fails is the second one of an added group, whose workload has
been created. -/
theorem alarms_of_failed_exchange {x : Exchange σ} (asked : x ∈ (handle home e).exchanges answer s)
    (file : x.request.createsPeerFile = true) (failed : x.reply answer = .error f) :
    ∃ w m, Manifest.workload? e.group home = .ok w ∧ (answer (.createWorkload home w) s).1 = .ok m ∧
      ((handle home e).run answer s).chronicle.alarms =
        [match f.blamed? with
          | some cause => leftInPlace home e.group (Gateway.identityOf m home) cause
          | none => unforeseen e f] := by
  obtain ⟨made, levels, hmade, course⟩ := exists_course answer home e s
  rw [hmade] at asked
  cases course with
  | rejected | modified => cases asked
  | uncreated | unowned | deleted =>
    obtain rfl := List.mem_singleton.mp asked
    cases file
  | @owned w m o added valid manifest created owner =>
    rcases List.mem_cons.mp asked with rfl | asked
    · cases file
    · obtain rfl := List.mem_singleton.mp asked
      exact ⟨w, m, manifest, created,
        alarms_of_failed_peerFile added valid manifest created owner failed⟩

end

/-- **Which failures are reported.**  However requests are answered, an operation of the gateway
makes its request and nothing else.  It gives back what is granted; a failure comes back as the
failed call that says all of it exactly if the API refused or the transport failed, and any other
failure comes back as it is.  So where a peer file fails, the one alarm says that the workload is
left in place exactly if the failure is reported, or is itself a failed call, which is then told by
its cause. -/
theorem failed_call_iff {σ : Type} (answer : Answering σ) (s : σ) :
    (∀ r : Request,
      ((Gateway.perform r).run answer s).chronicle = [.requested r] ∧
      (∀ a, (answer r s).1 = .ok a →
        ((Gateway.perform r).run answer s).result = .ok (Gateway.Result.ofAnswer r a)) ∧
      ∀ f, (answer r s).1 = .error f →
        (((Gateway.perform r).run answer s).result = .error (f.reportOf r) ↔ f.isReported = true) ∧
        (f.isReported = false → ((Gateway.perform r).run answer s).result = .error f)) ∧
    ∀ (home : Value) (e : Event) (x : Exchange σ) (f : Failure),
      x ∈ (handle home e).exchanges answer s → x.request.createsPeerFile = true →
      x.reply answer = .error f →
      ∃ w m, Manifest.workload? e.group home = .ok w ∧
        (answer (.createWorkload home w) s).1 = .ok m ∧
        ((handle home e).run answer s).chronicle.alarms =
          [match f.blamed? with
            | some cause => leftInPlace home e.group (Gateway.identityOf m home) cause
            | none => unforeseen e f] ∧
        (f.blamed? = none ↔ ∀ cause, leftInPlace home e.group (Gateway.identityOf m home) cause ∉
          ((handle home e).run answer s).chronicle.alarms) := by
  refine ⟨fun r => ?_, fun home e x f asked file failed => ?_⟩
  · rw [Gateway.run_perform]
    refine ⟨rfl, fun a granted => ?_, fun f failed => ?_⟩
    · simp only [granted]
    · cases kind : f.isReported with
      | true => simp [failed, Gateway.reported, kind]
      | false => simp [failed, Gateway.reported, kind, Failure.ne_reportOf]
  · obtain ⟨w, m, manifest, created, alarms⟩ := alarms_of_failed_exchange asked file failed
    refine ⟨w, m, manifest, created, alarms, ?_⟩
    rw [alarms]
    cases blamed : f.blamed? with
    | none =>
      refine iff_of_true rfl fun cause told => ?_
      -- one of the two records keeps a failure, the other does not
      cases congrArg Record.cause (List.mem_singleton.mp told)
    | some cause => exact iff_of_false nofun fun untold => untold cause (List.mem_singleton_self _)

/-- Replies to the next creation of a peer file: something goes wrong that is neither the API's
doing nor the transport's. -/
def strandingStage : StagedCluster where
  peerFileReplies := [some (.error (.system "token file missing"))]

/-- The deletion of a workload that does not exist is reported; a workload that is stranded is not
told of. -/
theorem strandingStage_silent :
    ((Gateway.perform (.deleteWorkload (.str "web") (.str "default") (.str "Background"))).run
        StagedCluster.answer strandingStage).result =
      .error (.call (.str "delete Deployment") (.str "web") (.str "default") Cluster.notFound
        (.int 404)) ∧
    ((Gateway.perform (.createPeerFile (.str "default")
        (Manifest.peerFile (Event.sample .added "default" "web" 1).group (.str "default") []))).run
        StagedCluster.answer strandingStage).result = .error (.system "token file missing") ∧
    ((handle (.str "default") (.sample .added "default" "web" 1)).run StagedCluster.answer
        strandingStage).chronicle.alarms =
      [unforeseen (.sample .added "default" "web" 1) (.system "token file missing")] := by
  obtain ⟨single, row⟩ := failed_call_iff StagedCluster.answer strandingStage
  obtain ⟨-, -, deletion⟩ :=
    single (.deleteWorkload (.str "web") (.str "default") (.str "Background"))
  obtain ⟨-, -, creation⟩ := single (.createPeerFile (.str "default")
    (Manifest.peerFile (Event.sample .added "default" "web" 1).group (.str "default") []))
  obtain ⟨w, m, -, -, alarms, -⟩ := row (.str "default") (.sample .added "default" "web" 1) _
    (.system "token file missing") (List.mem_of_getElem? (i := 1) rfl) rfl rfl
  exact ⟨(deletion Cluster.notFound rfl).1.mpr rfl, (creation _ rfl).2 rfl, alarms⟩

end Reconciler

end GroupOperator
