import GroupOperator.Proofs.Contents

/-!
# The courses that handling can take

Handling an event is a short conversation with whoever answers requests, and every end it can come
to is told in the records or is the quiet end of work done.  Here both are written down together:
the requests, each with the state in which it is made, and the levels of the *alarms*, the records
that matter more than the ordinary course of things.

`Reconciler.course_handle` is the one inversion: for any way of answering requests, handling takes
one of six courses.  Whatever is asked of a run, what it requested, what it told or what its
requests found, can then be read off by cases.
-/

namespace GroupOperator

/-! ## Requests with the states they meet -/

/-- A request of a run, and the state in which it is made. -/
structure Exchange (σ : Type) where
  /-- What is asked for. -/
  request : Request
  /-- The state that the request meets. -/
  before : σ

namespace Exchange

variable {σ : Type} (answer : Answering σ)

/-- What comes back. -/
def reply (x : Exchange σ) : x.request.Reply :=
  (answer x.request x.before).1

/-- The state that the request leaves. -/
def after (x : Exchange σ) : σ :=
  (answer x.request x.before).2

end Exchange

namespace Activity

variable {σ α β : Type} (answer : Answering σ)

/-- The requests of a run, each with the state in which it is made. -/
def exchanges : Activity α → σ → List (Exchange σ)
  | .done _, _ | .raised _, _ => []
  | .note _ next, s => next.exchanges s
  | .request r next, s => ⟨r, s⟩ :: (next (answer r s).1).exchanges (answer r s).2

/-- The states of a run: the first one, and the one that each request leaves. -/
def states (p : Activity α) (s : σ) : List σ :=
  s :: (p.exchanges answer s).map (·.after answer)

@[simp] theorem exchanges_done (a : α) (s : σ) : (done a).exchanges answer s = [] := rfl

@[simp] theorem exchanges_raised (f : Failure) (s : σ) :
    (raised f : Activity α).exchanges answer s = [] := rfl

@[simp] theorem exchanges_note (r : Record) (next : Activity α) (s : σ) :
    (note r next).exchanges answer s = next.exchanges answer s := rfl

@[simp] theorem exchanges_request (r : Request) (next : r.Reply → Activity α) (s : σ) :
    (request r next).exchanges answer s =
      ⟨r, s⟩ :: (next (answer r s).1).exchanges answer (answer r s).2 := rfl

/-! ## What running yields, node by node -/

@[simp] theorem run_done_apply (a : α) (s : σ) : (done a).run answer s = ⟨.ok a, [], s⟩ := rfl

@[simp] theorem run_raised_apply (f : Failure) (s : σ) :
    (raised f : Activity α).run answer s = ⟨.error f, [], s⟩ := rfl

@[simp] theorem run_note_apply (r : Record) (next : Activity α) (s : σ) :
    (note r next).run answer s =
      ⟨(next.run answer s).result, .told r :: (next.run answer s).chronicle,
        (next.run answer s).state⟩ := rfl

@[simp] theorem run_request_apply (r : Request) (next : r.Reply → Activity α) (s : σ) :
    (request r next).run answer s =
      ⟨((next (answer r s).1).run answer (answer r s).2).result,
        .requested r :: ((next (answer r s).1).run answer (answer r s).2).chronicle,
        ((next (answer r s).1).run answer (answer r s).2).state⟩ := rfl

/-- The requests of parts put together are those of the first and, if it comes to a result, those of
the second from there on. -/
theorem exchanges_bind (p : Activity α) (k : α → Activity β) (s : σ) :
    (p.bind k).exchanges answer s = p.exchanges answer s ++
      match (p.run answer s).result with
      | .ok a => (k a).exchanges answer (p.run answer s).state
      | .error _ => [] := by
  induction p generalizing s with
  | done a => rfl
  | raised f => rfl
  | note r next ih => exact ih s
  | request r next ih => exact congrArg (_ :: ·) (ih _ _)

/-- Handing over a failure makes no request. -/
theorem exchanges_attempt (p : Activity α) (s : σ) :
    p.attempt.exchanges answer s = p.exchanges answer s := by
  induction p generalizing s with
  | done a => rfl
  | raised f => rfl
  | note r next ih => exact ih s
  | request r next ih => exact congrArg (_ :: ·) (ih _ _)

/-- The chronicle of a run shows the same requests. -/
theorem requests_run (p : Activity α) (s : σ) :
    (p.run answer s).chronicle.requests = (p.exchanges answer s).map (·.request) := by
  induction p generalizing s with
  | done a => rfl
  | raised f => rfl
  | note r next ih => exact ih s
  | request r next ih => exact congrArg (_ :: ·) (ih _ _)

/-- What every request keeps, wherever it is met on the way, a run keeps. -/
theorem state_run_of_keeps {p : σ → Prop} {a : Activity α} {s : σ} (h : p s)
    (keeps : ∀ x ∈ a.exchanges answer s, p x.before → p (x.after answer)) :
    p (a.run answer s).state := by
  induction a generalizing s with
  | done _ => exact h
  | raised _ => exact h
  | note r next ih => exact ih h keeps
  | request r next ih =>
    obtain ⟨first, rest⟩ := List.forall_mem_cons.mp keeps
    exact ih _ (first h) rest

/-- A run ends in the state that its last request leaves. -/
theorem state_run_eq (p : Activity α) (s : σ) :
    (p.run answer s).state = ((p.exchanges answer s).map (·.after answer)).getLast?.getD s := by
  induction p generalizing s with
  | done a => rfl
  | raised f => rfl
  | note r next ih => exact ih s
  | request r next ih =>
    rw [exchanges_request, List.map_cons, List.getLast?_cons, Option.getD_some]
    exact ih _ _

/-- An activity hands over no events. -/
theorem events_run (p : Activity α) (s : σ) : (p.run answer s).chronicle.events = [] := by
  induction p generalizing s with
  | done a => rfl
  | raised f => rfl
  | note r next ih => exact ih s
  | request r next ih => exact ih _ _

/-- An activity begins no pauses. -/
theorem pauses_run (p : Activity α) (s : σ) : (p.run answer s).chronicle.pauses = [] := by
  induction p generalizing s with
  | done a => rfl
  | raised f => rfl
  | note r next ih => exact ih s
  | request r next ih => exact ih _ _

end Activity

/-! ## Alarms -/

/-- Whether a record matters more than the ordinary course of things. -/
def Record.isAlarm (r : Record) : Bool :=
  Level.warning.rank ≤ r.level.rank

/-- The records that matter more than the ordinary course of things. -/
def Chronicle.alarms (c : Chronicle) : List Record :=
  c.records.filter Record.isAlarm

namespace Activity

variable {σ α β : Type} (answer : Answering σ)

/-- The levels of the alarms of a run.  A failure in which the run ends counts as the error that it
is going to be told as. -/
def heard (p : Activity α) (s : σ) : List Level :=
  (p.run answer s).chronicle.alarms.map (·.level) ++
    match (p.run answer s).result with
    | .ok _ => []
    | .error _ => [.error]

@[simp] theorem heard_done (a : α) (s : σ) : (done a).heard answer s = [] := rfl

@[simp] theorem heard_raised (f : Failure) (s : σ) :
    (raised f : Activity α).heard answer s = [.error] := rfl

@[simp] theorem heard_note (r : Record) (next : Activity α) (s : σ) :
    (note r next).heard answer s =
      (if r.isAlarm then [r.level] else []) ++ next.heard answer s := by
  simp only [heard, run_note_apply, Chronicle.alarms, Chronicle.records, List.filterMap_cons,
    List.filter_cons]
  split <;> simp

@[simp] theorem heard_tell (r : Record) (s : σ) :
    (tell r).heard answer s = if r.isAlarm then [r.level] else [] := by
  rw [tell, heard_note, heard_done, List.append_nil]

@[simp] theorem heard_request (r : Request) (next : r.Reply → Activity α) (s : σ) :
    (request r next).heard answer s = (next (answer r s).1).heard answer (answer r s).2 := rfl

end Activity

/-! ## Handling -/

namespace Reconciler

variable {σ : Type} (answer : Answering σ) (home : Value)

@[simp] theorem isAlarm_record (level : Level) (message : String) (cause : Option Failure) :
    (record level message cause).isAlarm = decide (Level.warning.rank ≤ level.rank) := rfl

@[simp] theorem level_record (level : Level) (message : String) (cause : Option Failure) :
    (record level message cause).level = level := rfl

/-- The level at which a create of a workload that failed is told. -/
def levelOfFailure (home : Value) (w : Manifest.Workload) (f : Failure) : Level :=
  if (Gateway.report "create Deployment" w.name home f).isConflict then .warning else .error

/-- How loud a reply is whose failure is an error. -/
def heardOfReply {α : Type} : Except Failure α → List Level
  | .ok _ => []
  | .error _ => [.error]

/-- The ways in which an event can be handled: which requests are made, and at which level it is
told that the work was not done. -/
inductive Course (e : Event) (s : σ) : List (Exchange σ) → List Level → Prop where
  /-- An added group is not valid. -/
  | rejected (added : e.kind = .added) (invalid : ¬ e.group.IsValid) : Course e s [] [.error]
  /-- Its workload cannot be created. -/
  | uncreated {w : Manifest.Workload} {f : Failure} (added : e.kind = .added)
      (valid : e.group.IsValid) (manifest : Manifest.workload? e.group home = .ok w)
      (failed : (answer (.createWorkload home w) s).1 = .error f) :
      Course e s [⟨.createWorkload home w, s⟩] [levelOfFailure home w f]
  /-- The workload is created, but nothing can be made to go with it. -/
  | unowned {w : Manifest.Workload} {m : Metadata} {f : Failure} (added : e.kind = .added)
      (valid : e.group.IsValid) (manifest : Manifest.workload? e.group home = .ok w)
      (created : (answer (.createWorkload home w) s).1 = .ok m)
      (nobody : Manifest.owner? (Gateway.identityOf m home) = .error f) :
      Course e s [⟨.createWorkload home w, s⟩] [.error]
  /-- The workload is created and the peer file is asked for. -/
  | owned {w : Manifest.Workload} {m : Metadata} {o : Manifest.Owner} (added : e.kind = .added)
      (valid : e.group.IsValid) (manifest : Manifest.workload? e.group home = .ok w)
      (created : (answer (.createWorkload home w) s).1 = .ok m)
      (owner : Manifest.owner? (Gateway.identityOf m home) = .ok o) :
      Course e s
        [⟨.createWorkload home w, s⟩,
          ⟨.createPeerFile home (Manifest.peerFile e.group home [o]),
            (answer (.createWorkload home w) s).2⟩]
        (heardOfReply (answer (.createPeerFile home (Manifest.peerFile e.group home [o]))
          (answer (.createWorkload home w) s).2).1)
  /-- A group is modified. -/
  | modified (modified : e.kind = .modified) : Course e s [] []
  /-- The workload of a deleted group is asked to go. -/
  | deleted (deleted : e.kind = .deleted) :
      Course e s
        [⟨.deleteWorkload e.group.name e.group.namespaceName (.str Schema.backgroundPropagation),
          s⟩]
        (heardOfReply (answer (.deleteWorkload e.group.name e.group.namespaceName
          (.str Schema.backgroundPropagation)) s).1)

/-! ### Part by part -/

section

variable {answer home} {g : ServiceGroup} {workload : Identity} {s : σ}

theorem exchanges_createPeerFile_of_error {f : Failure} (h : Manifest.owner? workload = .error f) :
    (createPeerFile home g workload).exchanges answer s = [] := by
  simp [createPeerFile, h, Activity.ofExcept, Activity.bind]

theorem heard_createPeerFile_of_error {f : Failure} (h : Manifest.owner? workload = .error f) :
    (createPeerFile home g workload).heard answer s = [.error] := by
  simp [createPeerFile, h, Activity.ofExcept, Activity.bind]

theorem exchanges_createPeerFile_of_ok {o : Manifest.Owner} (h : Manifest.owner? workload = .ok o) :
    (createPeerFile home g workload).exchanges answer s =
      [⟨.createPeerFile home (Manifest.peerFile g home [o]), s⟩] := by
  simp only [createPeerFile, h, Activity.ofExcept, Activity.bind_eq, Activity.bind,
    Gateway.createPeerFile, Activity.attempt, Activity.exchanges_request]
  rcases (answer (.createPeerFile home (Manifest.peerFile g home [o])) s).1 with f | m
  · simp only [Activity.attempt, Activity.bind]
    split <;> rfl
  · rfl

theorem heard_createPeerFile_of_ok {o : Manifest.Owner} (h : Manifest.owner? workload = .ok o) :
    (createPeerFile home g workload).heard answer s =
      heardOfReply (answer (.createPeerFile home (Manifest.peerFile g home [o])) s).1 := by
  simp only [createPeerFile, h, Activity.ofExcept, Activity.bind_eq, Activity.bind,
    Gateway.createPeerFile, Activity.attempt, Activity.heard_request]
  rcases (answer (.createPeerFile home (Manifest.peerFile g home [o])) s).1 with f | m
  · -- a failed call is told at once, any other failure by whoever catches it
    simp only [Activity.attempt, Activity.bind]
    generalize Gateway.report _ _ home f = reported
    cases reported <;> rfl
  · rfl

variable {w : Manifest.Workload}

theorem exchanges_materialize_of_error {f : Failure} (hw : Manifest.workload? g home = .ok w)
    (h : (answer (.createWorkload home w) s).1 = .error f) :
    (materialize home g).exchanges answer s = [⟨.createWorkload home w, s⟩] := by
  simp only [materialize, hw, Activity.ofExcept, Activity.bind_eq, Activity.bind,
    Gateway.createWorkload, Activity.attempt, Activity.exchanges_request, h]
  split
  · rename_i hr
    cases hr
  · split <;> rfl
  · rfl

theorem heard_materialize_of_error {f : Failure} (hw : Manifest.workload? g home = .ok w)
    (h : (answer (.createWorkload home w) s).1 = .error f) :
    (materialize home g).heard answer s = [levelOfFailure home w f] := by
  simp only [materialize, hw, Activity.ofExcept, Activity.bind_eq, Activity.bind,
    Gateway.createWorkload, Activity.attempt, Activity.heard_request, h, levelOfFailure]
  generalize Gateway.report "create Deployment" w.name home f = reported
  cases reported with
  | call operation object namespaceName cause status =>
    simp only
    split <;> rfl
  | _ => rfl

theorem exchanges_materialize_of_ok {m : Metadata} (hw : Manifest.workload? g home = .ok w)
    (h : (answer (.createWorkload home w) s).1 = .ok m) :
    (materialize home g).exchanges answer s = ⟨.createWorkload home w, s⟩ ::
      (createPeerFile home g (Gateway.identityOf m home)).exchanges answer
        (answer (.createWorkload home w) s).2 := by
  simp [materialize, hw, Activity.ofExcept, Activity.bind, Gateway.createWorkload,
    Activity.attempt, h]

theorem heard_materialize_of_ok {m : Metadata} (hw : Manifest.workload? g home = .ok w)
    (h : (answer (.createWorkload home w) s).1 = .ok m) :
    (materialize home g).heard answer s =
      (createPeerFile home g (Gateway.identityOf m home)).heard answer
        (answer (.createWorkload home w) s).2 := by
  simp [materialize, hw, Activity.ofExcept, Activity.bind, Gateway.createWorkload,
    Activity.attempt, h, Level.rank]

end

/-! ### The whole -/

theorem course_respond (e : Event) (s : σ) :
    Course answer home e s ((respond home e).exchanges answer s)
      ((respond home e).heard answer s) := by
  rcases e with ⟨kind, g, old⟩
  cases kind with
  | added =>
    simp only [respond, added, Activity.bind_eq, Activity.tell_bind, Activity.exchanges_note,
      Activity.heard_note, isAlarm_record, Level.rank]
    cases hr : g.reject? with
    | some r => exact .rejected rfl (by simp [ServiceGroup.IsValid, hr])
    | none =>
      have hv : g.IsValid := hr
      obtain ⟨w, hw⟩ := Manifest.workload?_of_isValid hv home
      simp only [Activity.exchanges_note, Activity.heard_note, isAlarm_record, Level.rank]
      cases hc : (answer (.createWorkload home w) s).1 with
      | error f =>
        rw [exchanges_materialize_of_error hw hc, heard_materialize_of_error hw hc]
        exact .uncreated rfl hv hw hc
      | ok m =>
        rw [exchanges_materialize_of_ok hw hc, heard_materialize_of_ok hw hc]
        cases ho : Manifest.owner? (Gateway.identityOf m home) with
        | error f =>
          rw [exchanges_createPeerFile_of_error ho, heard_createPeerFile_of_error ho]
          exact .unowned rfl hv hw hc ho
        | ok o =>
          rw [exchanges_createPeerFile_of_ok ho, heard_createPeerFile_of_ok ho]
          exact .owned rfl hv hw hc ho
  | modified => exact .modified rfl
  | deleted =>
    have hd : Course answer home ⟨.deleted, g, old⟩ s _ _ := .deleted rfl
    simp only [respond, deleted, Activity.bind_eq, Activity.tell_bind, Activity.bind,
      Gateway.deleteWorkload, Activity.attempt, Activity.exchanges_note, Activity.heard_note,
      Activity.exchanges_request, Activity.heard_request, isAlarm_record, Level.rank,
      Manifest.workloadName]
    rcases hc : (answer (.deleteWorkload g.name g.namespaceName
      (.str Schema.backgroundPropagation)) s).1 with f | u
    · rw [hc] at hd
      simp only [Activity.attempt, Activity.bind]
      generalize Gateway.report _ _ g.namespaceName f = reported
      cases reported <;> exact hd
    · rw [hc] at hd
      exact hd

/-- The requests of handling are those of the response. -/
theorem exchanges_handle (e : Event) (s : σ) :
    (handle home e).exchanges answer s = (respond home e).exchanges answer s := by
  simp only [handle, Activity.bind_eq, Activity.exchanges_bind, Activity.exchanges_attempt,
    Activity.run_attempt, Action.attempt]
  cases ((respond home e).run answer s).result <;> exact List.append_nil _

/-- The record of a failure that nobody provided for. -/
def unforeseen (e : Event) (f : Failure) : Record :=
  record .error ("Unexpected error handling " ++ e.kind.name ++ " for " ++ e.group.link.text ++
    ": " ++ f.message) (some f)

/-- Handling sounds the alarms of the response, and one more if that fails. -/
theorem alarms_handle_eq (e : Event) (s : σ) :
    ((handle home e).run answer s).chronicle.alarms =
      ((respond home e).run answer s).chronicle.alarms ++
        match ((respond home e).run answer s).result with
        | .ok _ => []
        | .error f => [unforeseen e f] := by
  simp only [handle, Activity.bind_eq, Activity.run_bind, Activity.run_attempt, Action.bind,
    Action.attempt, Chronicle.alarms, Chronicle.records_append, List.filter_append]
  cases ((respond home e).run answer s).result <;> rfl

/-- Handling tells what the response tells, and its failure if it fails. -/
theorem alarms_handle (e : Event) (s : σ) :
    ((handle home e).run answer s).chronicle.alarms.map (·.level) =
      (respond home e).heard answer s := by
  rw [alarms_handle_eq, List.map_append, Activity.heard]
  cases ((respond home e).run answer s).result <;> rfl

/-- The one inversion of handling: everything that it can request and tell. -/
theorem course_handle (e : Event) (s : σ) :
    Course answer home e s ((handle home e).exchanges answer s)
      (((handle home e).run answer s).chronicle.alarms.map (·.level)) := by
  rw [exchanges_handle, alarms_handle]
  exact course_respond answer home e s

variable {answer home} in
/-- The first request of an event meets the state that the event meets, and whatever follows it is
for a peer file. -/
theorem Course.of_cons {e : Event} {s : σ} {x : Exchange σ} {rest : List (Exchange σ)}
    {levels : List Level} (h : Course answer home e s (x :: rest) levels) :
    x.before = s ∧ ∀ y ∈ rest, ∃ f, y.request = .createPeerFile home f := by
  cases h with
  | uncreated | unowned | deleted => exact ⟨rfl, List.forall_mem_nil _⟩
  | owned => exact ⟨rfl, List.forall_mem_singleton.mpr ⟨_, rfl⟩⟩

/-- The requests of a history are those of its events, one after the other. -/
theorem exchanges_handleAll_cons (e : Event) (rest : List Event) (s : σ) :
    (handleAll home (e :: rest)).exchanges answer s = (handle home e).exchanges answer s ++
      (handleAll home rest).exchanges answer ((handle home e).run answer s).state := by
  rw [handleAll, Activity.exchanges_bind, result_handle]

/-- The requests of handling, given as those of some course. -/
theorem exists_course (e : Event) (s : σ) :
    ∃ made levels, (handle home e).exchanges answer s = made ∧ Course answer home e s made levels :=
  ⟨_, _, rfl, course_handle answer home e s⟩

end Reconciler

end GroupOperator
