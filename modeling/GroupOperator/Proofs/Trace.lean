import GroupOperator.Proofs.Course
import Mathlib.Data.List.Forall2

/-!
# The shape of the trace

What the operator requests while it handles a history is one block of requests after another, one
for each event, and what a block looks like depends on the event and on the reply to its first
request alone (`Event.IsBlock`):

* a modification requests nothing;
* a deletion requests that one workload go, and never says anything about a peer file;
* an addition requests nothing if the group is not valid, else a workload, and right after it a peer
  file if and only if the workload was created and came back with a name.

The two manifests of a block are made by two functions that know nothing of each other, and the
second refers to an identity that the cluster made up in between.  That they fit together is
`Manifest.Wired`.
-/

namespace GroupOperator

namespace Manifest

/-! ## How two manifests fit together -/

/-- The API version and the kind that a written object states. -/
def statedType : Value → Option Value × Option Value
  | .object members => (Value.member? "apiVersion" members, Value.member? "kind" members)
  | _ => (none, none)

/-- A peer file fits the workload that was asked for before it in the namespace `home`, and of which
the cluster then said `m`. -/
structure Wired (home : Value) (w : Workload) (m : Metadata) (f : PeerFile) : Prop where
  /-- The workload states that namespace. -/
  workload_home : w.namespaceName = home
  /-- So does the peer file. -/
  peerFile_home : f.namespaceName = home
  /-- The one volume of the pods shows one key, which the peer file has, and the one container sees
  that volume. -/
  volume : ∃ volume item container mount, w.pod.volumes = [volume] ∧ volume.items = [item] ∧
    w.pod.containers = [container] ∧ container.mounts = [mount] ∧
    volume.source = f.name ∧ item.key ∈ f.data.map (·.1) ∧ mount.volume = volume.name
  /-- The one owner is of the type that the workload states, and is called what the cluster called
  the workload; an identifier that is absent is the empty text. -/
  owner : ∃ owner, f.owners = [owner] ∧ statedType owner.toValue = statedType w.toValue ∧
    owner.name = m.name ∧ (m.uid.isPresent = true → owner.uid = m.uid) ∧
    (m.uid.isPresent = false → owner.uid = .str "")

variable {home : Value} {m : Metadata}

/-- A workload that came back with a name can be referred to. -/
theorem owner?_of_named (named : m.name ≠ .null) :
    owner? (Gateway.identityOf m home) =
      .ok ⟨Workload.typeFields.1, Workload.typeFields.2, m.name, m.uid.orElse (.str "")⟩ := by
  have identified : m.uid.orElse (.str "") ≠ .null := by
    intro nothing
    rw [Value.orElse] at nothing
    split at nothing
    · rename_i present
      rw [nothing] at present
      cases present
    · cases nothing
  rw [owner?, Gateway.identityOf, if_neg named, if_neg identified]

/-- What can be referred to came back with a name. -/
theorem named_of_owner?_eq_ok {o : Owner} (h : owner? (Gateway.identityOf m home) = .ok o) :
    m.name ≠ .null := by
  intro unnamed
  rw [owner?, Gateway.identityOf, if_pos unnamed] at h
  cases h

/-- What cannot be referred to came back without one. -/
theorem unnamed_of_owner?_eq_error {f : Failure}
    (h : owner? (Gateway.identityOf m home) = .error f) : m.name = .null := by
  refine Decidable.byContradiction fun named => ?_
  rw [owner?_of_named named] at h
  cases h

/-- The peer file of a group fits the workload of that group. -/
theorem wired_peerFile {g : ServiceGroup} {w : Workload} {o : Owner}
    (manifest : workload? g home = .ok w)
    (owner : owner? (Gateway.identityOf m home) = .ok o) :
    Wired home w m (peerFile g home [o]) := by
  rw [owner?_of_named (named_of_owner?_eq_ok owner)] at owner
  obtain rfl := Except.ok.inj owner
  cases hr : replicas? g.count with
  | error f =>
    rw [workload?, hr] at manifest
    cases manifest
  | ok n =>
    rw [workload?, hr] at manifest
    obtain rfl := Except.ok.inj manifest
    exact {
      workload_home := rfl
      peerFile_home := rfl
      volume := ⟨_, _, _, _, rfl, rfl, rfl, rfl, rfl, List.mem_singleton_self _, rfl⟩
      owner := ⟨_, rfl, rfl, rfl, fun present => if_pos present,
        fun absent => if_neg (Bool.eq_false_iff.mp absent)⟩ }

end Manifest

/-! ## Blocks -/

section

variable {σ : Type} (answer : Answering σ) (home : Value)

/-- What may follow the request for the workload `w`, made in the state `s`: the peer file if the
workload was created and came back with a name, else nothing. -/
def IsSequel (w : Manifest.Workload) (s : σ) (rest : List (Exchange σ)) : Prop :=
  match (answer (.createWorkload home w) s).1 with
  | .ok m =>
    if m.name = .null then rest = []
    else ∃ f, rest = [⟨.createPeerFile home f, (answer (.createWorkload home w) s).2⟩] ∧
      Manifest.Wired home w m f
  | .error _ => rest = []

/-- What is requested for one event. -/
def Event.IsBlock (e : Event) (made : List (Exchange σ)) : Prop :=
  match e.kind with
  | .added =>
    if e.group.IsValid then
      ∃ w s rest, Manifest.workload? e.group home = .ok w ∧
        made = ⟨.createWorkload home w, s⟩ :: rest ∧ IsSequel answer home w s rest
    else made = []
  | .modified => made = []
  | .deleted =>
    made.map (·.request) =
      [.deleteWorkload e.group.name e.group.namespaceName (.str "Background")]

end

namespace Reconciler

variable {σ : Type} (answer : Answering σ) (home : Value)

/-- What is requested while an event is handled is a block. -/
theorem isBlock_handle (e : Event) (s : σ) :
    e.IsBlock answer home ((handle home e).exchanges answer s) := by
  obtain ⟨made, levels, hmade, course⟩ := exists_course answer home e s
  rw [hmade, Event.IsBlock]
  cases course with
  | rejected added invalid => rw [added, if_neg invalid]
  | @uncreated w f added valid manifest failed =>
    rw [added, if_pos valid]
    refine ⟨w, s, [], manifest, rfl, ?_⟩
    rw [IsSequel, failed]
  | @unowned w m f added valid manifest created nobody =>
    rw [added, if_pos valid]
    refine ⟨w, s, [], manifest, rfl, ?_⟩
    rw [IsSequel, created]
    simp only [if_pos (Manifest.unnamed_of_owner?_eq_error nobody)]
  | @owned w m o added valid manifest created owner =>
    rw [added, if_pos valid]
    refine ⟨w, s, _, manifest, rfl, ?_⟩
    rw [IsSequel, created]
    simp only [if_neg (Manifest.named_of_owner?_eq_ok owner)]
    exact ⟨_, rfl, Manifest.wired_peerFile manifest owner⟩
  | modified modified => rw [modified]
  | deleted deleted =>
    rw [deleted]
    rfl

/-- **The trace is made of blocks.**  However requests are answered, what is requested while a
history is handled is one block of requests for each event, in the order of the events and with
nothing between them. -/
theorem trace_in_blocks (history : List Event) (s : σ) :
    ∃ blocks : List (List (Exchange σ)),
      ((handleAll home history).run answer s).chronicle.requests =
        blocks.flatten.map (·.request) ∧
      (handleAll home history).exchanges answer s = blocks.flatten ∧
      List.Forall₂ (fun e made => e.IsBlock answer home made) history blocks := by
  suffices shape : ∃ blocks : List (List (Exchange σ)),
      (handleAll home history).exchanges answer s = blocks.flatten ∧
      List.Forall₂ (fun e made => e.IsBlock answer home made) history blocks by
    obtain ⟨blocks, trace, each⟩ := shape
    exact ⟨blocks, by rw [Activity.requests_run, trace], trace, each⟩
  induction history generalizing s with
  | nil => exact ⟨[], rfl, .nil⟩
  | cons e rest ih =>
    obtain ⟨blocks, trace, each⟩ := ih ((handle home e).run answer s).state
    refine ⟨(handle home e).exchanges answer s :: blocks, ?_,
      .cons (isBlock_handle answer home e s) each⟩
    rw [exchanges_handleAll_cons, trace, List.flatten_cons]

end Reconciler

end GroupOperator
