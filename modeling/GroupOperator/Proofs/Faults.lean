import GroupOperator.Proofs.Course
import GroupOperator.Proofs.Ownership

/-!
# Ownership when requests fail

Any request can fail, and a failure leaves whatever was done before it: a workload without its peer
file, a deleted group whose workload still stands.  None of this makes a cluster untidy.  The reason
is in what the operator asks for (`Cluster.Proper`):

* a workload is asked for in the operator's own namespace;
* a peer file is asked for right after the workload it is to go with was created, so the workload is
  there and owns nothing yet;
* a workload is deleted along with what it owns.

A proper request leaves a tidy cluster tidy whether it is granted or not (`Tidy.answer`), and every
request that the handling of an event makes is proper in the state it meets, as long as no success
is made up (`Guarded.of_mem_exchanges`).
-/

namespace GroupOperator

/-! ## Failures and nothing else -/

/-- The cluster itself replies to a request, because no reply is prepared. -/
def Exchange.IsGenuine (x : Exchange StagedCluster) : Prop :=
  (x.before.draw x.request).1 = none

instance (x : Exchange StagedCluster) : Decidable x.IsGenuine :=
  decidable_of_iff ((x.before.draw x.request).1.isNone = true) Option.isNone_iff_eq_none

namespace StagedCluster

/-- No success is prepared: every request fails as prepared, or is answered by the cluster. -/
structure OnlyErrors (s : StagedCluster) : Prop where
  /-- No creation of a workload is made up. -/
  workloads : ∀ reply ∈ s.workloadReplies, ∀ m, reply ≠ some (.ok m)
  /-- No creation of a peer file is made up. -/
  peerFiles : ∀ reply ∈ s.peerFileReplies, ∀ m, reply ≠ some (.ok m)
  /-- No deletion is made up. -/
  deletions : ∀ reply ∈ s.deletionReplies, ∀ u, reply ≠ some (.ok u)

variable {s : StagedCluster}

/-- What is drawn first from a row was in it. -/
theorem mem_of_head?_join {α : Type} {l : List (Option α)} {a : α} (h : l.head?.join = some a) :
    some a ∈ l := by
  cases l with
  | nil => cases h
  | cons first rest =>
    rw [List.head?_cons, Option.join_some] at h
    exact h ▸ List.mem_cons_self ..

/-- What is drawn is a failure. -/
theorem OnlyErrors.error_of_draw (h : s.OnlyErrors) {r : Request} {reply : r.Reply}
    (drawn : (s.draw r).1 = some reply) : ∃ f, reply = .error f := by
  have never : ∀ a, reply ≠ .ok a := by
    intro a ha
    subst ha
    cases r with
    | createWorkload n w => exact h.workloads _ (mem_of_head?_join drawn) a rfl
    | createPeerFile n f => exact h.peerFiles _ (mem_of_head?_join drawn) a rfl
    | deleteWorkload name n policy => exact h.deletions _ (mem_of_head?_join drawn) a rfl
  cases reply with
  | ok a => exact absurd rfl (never a)
  | error f => exact ⟨f, rfl⟩

/-- What is left prepared after a request. -/
theorem OnlyErrors.answer (h : s.OnlyErrors) (r : Request) :
    (StagedCluster.answer r s).2.OnlyErrors := by
  have left : (s.draw r).2.OnlyErrors := by
    cases r with
    | createWorkload n w =>
      exact ⟨fun reply hr => h.workloads reply (List.mem_of_mem_tail hr), h.peerFiles, h.deletions⟩
    | createPeerFile n f =>
      exact ⟨h.workloads, fun reply hr => h.peerFiles reply (List.mem_of_mem_tail hr), h.deletions⟩
    | deleteWorkload name n policy =>
      exact ⟨h.workloads, h.peerFiles, fun reply hr => h.deletions reply (List.mem_of_mem_tail hr)⟩
  rw [StagedCluster.answer]
  rcases hd : s.draw r with ⟨reply | reply, rest⟩
  · rw [hd] at left
    exact ⟨left.workloads, left.peerFiles, left.deletions⟩
  · rw [hd] at left
    exact left

/-- A prepared reply is what comes back. -/
theorem reply_of_prepared {r : Request} {reply : r.Reply} (drawn : (s.draw r).1 = some reply) :
    (StagedCluster.answer r s).1 = reply := by
  rw [StagedCluster.answer]
  rcases hs : s.draw r with ⟨first, rest⟩
  rw [hs] at drawn
  simp only at drawn
  subst drawn
  rfl

/-- What is granted is granted by the cluster itself. -/
theorem OnlyErrors.genuine_of_ok (h : s.OnlyErrors) {r : Request} {a : r.Answer}
    (granted : (StagedCluster.answer r s).1 = .ok a) : (Exchange.mk r s).IsGenuine := by
  cases hd : (s.draw r).1 with
  | none => exact hd
  | some reply =>
    obtain ⟨f, rfl⟩ := h.error_of_draw hd
    rw [reply_of_prepared hd] at granted
    cases granted

/-- A request fails and leaves the objects alone, or the cluster itself answers. -/
theorem OnlyErrors.reply (h : s.OnlyErrors) (r : Request) :
    ((∃ f, (StagedCluster.answer r s).1 = .error f) ∧
        (StagedCluster.answer r s).2.cluster = s.cluster) ∨
      ((StagedCluster.answer r s).1 = (Cluster.answer r s.cluster).1 ∧
        (StagedCluster.answer r s).2.cluster = (Cluster.answer r s.cluster).2) := by
  cases hd : (s.draw r).1 with
  | none => exact .inr (answer_of_unprepared hd)
  | some reply =>
    obtain ⟨f, rfl⟩ := h.error_of_draw hd
    exact .inl ⟨⟨f, reply_of_prepared hd⟩, cluster_of_prepared hd⟩

end StagedCluster

namespace Cluster

variable {home : Value} {named : Value → Prop} {c : Cluster}

/-! ## Proper requests -/

/-- A request that an operator with the namespace `home` may make, if names of workloads are to be
`named`. -/
inductive Proper (home : Value) (named : Value → Prop) (c : Cluster) : Request → Prop where
  /-- A workload in the operator's namespace. -/
  | workload {w : Manifest.Workload} (name : named w.name) :
      Proper home named c (.createWorkload home w)
  /-- The peer file of a workload that is held and owns nothing. -/
  | peerFile {w : Stored Manifest.Workload} {f : Manifest.PeerFile} (held : w ∈ c.workloads)
      (name : f.name = Manifest.peerFileName w.name) (owner : f.owners.map (·.uid) = [.str w.uid])
      (unowned : ∀ g ∈ c.peerFiles, g.owners ≠ [.str w.uid]) :
      Proper home named c (.createPeerFile home f)
  /-- A deletion of whatever stands under a namespace and name, and of what it owns. -/
  | deletion {name namespaceName : Value} :
      Proper home named c (.deleteWorkload name namespaceName (.str Schema.backgroundPropagation))

namespace Tidy

/-- A proper request leaves a tidy cluster tidy, whatever the cluster answers. -/
theorem answer (h : Tidy home c) {r : Request} (proper : Proper home named c r) :
    Tidy home (Cluster.answer r c).2 := by
  cases proper with
  | @workload w name =>
    simp only [Cluster.answer]
    cases hw : c.workload? home w.name with
    | none =>
      rw [createWorkload_of_none hw]
      exact h.withWorkload hw
    | some o =>
      rw [createWorkload_of_some hw]
      exact h
  | @peerFile w f held name owner unowned =>
    simp only [Cluster.answer]
    cases hf : c.peerFile? home (.str f.name) with
    | none =>
      rw [createPeerFile_of_none hf]
      exact h.withPeerFile held name owner unowned
    | some o =>
      rw [createPeerFile_of_some hf]
      exact h
  | @deletion name namespaceName =>
    simp only [Cluster.answer]
    cases hw : c.workload? namespaceName name with
    | none =>
      rw [deleteWorkload_of_none hw]
      exact h
    | some o =>
      rw [deleteWorkload_of_some hw]
      exact h.withoutWorkload hw

/-- The peer file that a proper request asks for is not there yet, if names are texts. -/
theorem peerFile?_eq_none_of_proper (h : Tidy home c) (text : ∀ w ∈ c.workloads, w.name.IsText)
    {n : Value} {f : Manifest.PeerFile} (proper : Proper home named c (.createPeerFile n f)) :
    c.peerFile? n (.str f.name) = none := by
  cases proper with
  | @peerFile w f held name owner unowned =>
    -- a file of that name would be owned by the workload, which owns none
    refine peerFile?_eq_none_iff.mpr ?_
    rintro g hg ⟨-, hname⟩
    rw [name] at hname
    exact unowned g hg (h.owners_of_name text held hg hname)

/-- No two objects of any kind share an identifier. -/
theorem uids_nodup (h : Tidy home c) :
    (c.workloads.map (·.uid) ++ c.peerFiles.map (·.uid)).Nodup := by
  refine List.nodup_append.mpr ⟨h.workload_uids, h.peerFile_uids, ?_⟩
  intro _ huw _ huf he
  obtain ⟨w, hw, rfl⟩ := List.mem_map.mp huw
  obtain ⟨f, hf, rfl⟩ := List.mem_map.mp huf
  obtain ⟨i, -, hi⟩ := h.workload_issued w hw
  obtain ⟨j, -, hj⟩ := h.peerFile_issued f hf
  rw [hi, hj] at he
  -- the two kinds of identifiers begin differently
  have hc := congrArg (fun u : String => u.toList.head?) he
  simp at hc

end Tidy

/-- The names of workloads after a proper request are among those it may give and those there
were. -/
theorem named_answer (names : ∀ w ∈ c.workloads, named w.name) {r : Request}
    (proper : Proper home named c r) : ∀ w ∈ (Cluster.answer r c).2.workloads, named w.name := by
  cases proper with
  | @workload w name =>
    simp only [Cluster.answer]
    cases hw : c.workload? home w.name with
    | none =>
      rw [createWorkload_of_none hw]
      exact forall_mem_concat.mpr ⟨names, name⟩
    | some o =>
      rw [createWorkload_of_some hw]
      exact names
  | peerFile held name owner unowned =>
    simp only [Cluster.answer, workloads_createPeerFile]
    exact names
  | @deletion name namespaceName =>
    simp only [Cluster.answer]
    cases hw : c.workload? namespaceName name with
    | none =>
      rw [deleteWorkload_of_none hw]
      exact names
    | some o =>
      rw [deleteWorkload_of_some hw]
      exact fun v hv => names v (mem_workloads_withoutWorkload.mp hv).1

end Cluster

/-! ## Every request of the operator is proper -/

namespace StagedCluster

open Cluster

variable {home : Value} {named : Value → Prop} {s : StagedCluster}

/-- A tidy cluster whose requests may fail but never succeed without effect. -/
structure Guarded (home : Value) (named : Value → Prop) (s : StagedCluster) : Prop where
  /-- No success is made up. -/
  errors : s.OnlyErrors
  /-- The cluster is tidy. -/
  tidy : Tidy home s.cluster
  /-- Workloads have names of the kind given. -/
  names : ∀ w ∈ s.cluster.workloads, named w.name

/-- A proper request leaves everything guarded, whether it fails or not. -/
theorem Guarded.answer (h : Guarded home named s) {r : Request}
    (proper : Proper home named s.cluster r) :
    Guarded home named (StagedCluster.answer r s).2 := by
  refine ⟨h.errors.answer r, ?_, ?_⟩
  · rcases h.errors.reply r with ⟨-, kept⟩ | ⟨-, done⟩
    · exact kept ▸ h.tidy
    · exact done ▸ h.tidy.answer proper
  · rcases h.errors.reply r with ⟨-, kept⟩ | ⟨-, done⟩
    · exact kept ▸ h.names
    · exact done ▸ named_answer h.names proper

/-- A workload that was created is held and owns nothing, and it is what its identity refers to. -/
theorem Guarded.of_created (h : Guarded home named s) {w : Manifest.Workload} {m : Metadata}
    {o : Manifest.Owner} (hnull : w.name ≠ .null)
    (created : (StagedCluster.answer (.createWorkload home w) s).1 = .ok m)
    (owner : Manifest.owner? (Gateway.identityOf m home) = .ok o) :
    ∃ v ∈ (StagedCluster.answer (.createWorkload home w) s).2.cluster.workloads,
      v.name = w.name ∧ o.uid = .str v.uid ∧
      ∀ g ∈ (StagedCluster.answer (.createWorkload home w) s).2.cluster.peerFiles,
        g.owners ≠ [.str v.uid] := by
  rcases h.errors.reply (.createWorkload home w) with ⟨⟨f, hf⟩, -⟩ | ⟨reply, done⟩
  · rw [hf] at created
    cases created
  · rw [reply] at created
    simp only [Cluster.answer] at created done
    cases hw : s.cluster.workload? home w.name with
    | some v =>
      rw [createWorkload_of_some hw] at created
      cases created
    | none =>
      rw [createWorkload_of_none hw] at created done
      cases created
      rw [owner?_identityOf hnull] at owner
      cases owner
      rw [done]
      exact ⟨_, List.mem_append_right _ (List.mem_singleton_self _), rfl, rfl,
        fun g hg => h.tidy.owners_ne_next hg⟩

/-- Every request that the handling of an event makes is proper, and meets a guarded cluster. -/
theorem Guarded.of_mem_exchanges (h : Guarded home named s) {e : Event} (name : named e.group.name)
    {x : Exchange StagedCluster}
    (hx : x ∈ (Reconciler.handle home e).exchanges StagedCluster.answer s) :
    Guarded home named x.before ∧ Proper home named x.before.cluster x.request := by
  obtain ⟨made, levels, hmade, course⟩ := Reconciler.exists_course StagedCluster.answer home e s
  rw [hmade] at hx
  have asked {w : Manifest.Workload} (manifest : Manifest.workload? e.group home = .ok w) :
      Proper home named s.cluster (.createWorkload home w) :=
    .workload (Manifest.name_of_workload? manifest ▸ name)
  cases course with
  | rejected added invalid => cases hx
  | uncreated added valid manifest failed =>
    rw [List.mem_singleton.mp hx]
    exact ⟨h, asked manifest⟩
  | unowned added valid manifest created nobody =>
    rw [List.mem_singleton.mp hx]
    exact ⟨h, asked manifest⟩
  | @owned w m o added valid manifest created owner =>
    have hname := Manifest.name_of_workload? manifest
    rcases List.mem_pair.mp hx with rfl | rfl
    · exact ⟨h, asked manifest⟩
    · have hnull := Manifest.name_ne_null valid manifest
      obtain ⟨v, hv, hvname, howner, unowned⟩ := h.of_created hnull created owner
      refine ⟨h.answer (asked manifest), .peerFile hv ?_ ?_ unowned⟩
      · rw [hvname, hname]
        rfl
      · rw [← howner]
        rfl
  | modified modified => cases hx
  | deleted deleted =>
    rw [List.mem_singleton.mp hx]
    exact ⟨h, .deletion⟩

/-- What is guarded is guarded after an event. -/
theorem Guarded.handle (h : Guarded home named s) {e : Event} (name : named e.group.name) :
    Guarded home named ((Reconciler.handle home e).run StagedCluster.answer s).state :=
  Activity.state_run_of_keeps StagedCluster.answer h fun _ hx before =>
    before.answer (h.of_mem_exchanges name hx).2

/-- So is every request made for a whole history. -/
theorem Guarded.of_mem_exchanges_handleAll (h : Guarded home named s) {history : List Event}
    (names : ∀ e ∈ history, named e.group.name) {x : Exchange StagedCluster}
    (hx : x ∈ (Reconciler.handleAll home history).exchanges StagedCluster.answer s) :
    Guarded home named x.before ∧ Proper home named x.before.cluster x.request := by
  induction history generalizing s with
  | nil => cases hx
  | cons e rest ih =>
    obtain ⟨he, hrest⟩ := List.forall_mem_cons.mp names
    rw [Reconciler.exchanges_handleAll_cons] at hx
    rcases List.mem_append.mp hx with hx | hx
    · exact h.of_mem_exchanges he hx
    · exact ih (h.handle he) hrest hx

/-- So every state of the handling of a history is guarded. -/
theorem Guarded.of_mem_states (h : Guarded home named s) {history : List Event}
    (names : ∀ e ∈ history, named e.group.name) {t : StagedCluster}
    (ht : t ∈ (Reconciler.handleAll home history).states StagedCluster.answer s) :
    Guarded home named t := by
  rcases List.mem_cons.mp ht with rfl | ht
  · exact h
  · obtain ⟨x, hx, rfl⟩ := List.mem_map.mp ht
    obtain ⟨before, proper⟩ := h.of_mem_exchanges_handleAll names hx
    exact before.answer proper

theorem guarded_of_empty (empty : s.cluster = Cluster.empty) (errors : s.OnlyErrors) :
    Guarded home named s where
  errors
  tidy := empty ▸ tidy_empty home
  names := by simp [empty, Cluster.empty]

/-- **Failures leave no untidiness.**  Beginning with nothing, whatever events are handled and
whichever requests fail, in every state on the way the cluster is tidy and no two objects of any
kind share an identifier.  If moreover all names are texts, the cluster itself never finds the peer
file that is asked for to exist already. -/
theorem tidy_under_failures (home : Value) (s : StagedCluster) (history : List Event)
    (empty : s.cluster = Cluster.empty) (errors : s.OnlyErrors) :
    (∀ t ∈ (Reconciler.handleAll home history).states StagedCluster.answer s,
      Tidy home t.cluster ∧
        (t.cluster.workloads.map (·.uid) ++ t.cluster.peerFiles.map (·.uid)).Nodup) ∧
    ((∀ e ∈ history, e.group.name.IsText) →
      ∀ x ∈ (Reconciler.handleAll home history).exchanges StagedCluster.answer s,
        ∀ n f, x.request = .createPeerFile n f →
          (x.before.cluster.createPeerFile n f).1 ≠ .error conflict) := by
  constructor
  · intro t ht
    have guarded : Guarded home (fun _ => True) s := guarded_of_empty empty errors
    have tidy := (guarded.of_mem_states (fun _ _ => trivial) ht).tidy
    exact ⟨tidy, tidy.uids_nodup⟩
  · intro text x hx n f hr
    obtain ⟨before, proper⟩ := (guarded_of_empty empty errors).of_mem_exchanges_handleAll text hx
    rw [hr] at proper
    rw [createPeerFile_of_none (before.tidy.peerFile?_eq_none_of_proper before.names proper)]
    simp

/-- The first peer file cannot be created and the first deletion fails. -/
def faultyStage : StagedCluster where
  peerFileReplies := [some (.error (.badValue "out of order"))]
  deletionReplies := [some (.error (.refused (.int 503) (.str "Service Unavailable") .null))]

/-- A group is added, its deletion fails, it is added again in vain, deleted, and added once
more. -/
def faultyHistory : List Event :=
  [.sample .added "default" "web" 1, .sample .deleted "default" "web" 1,
    .sample .added "default" "web" 1, .sample .deleted "default" "web" 1,
    .sample .added "default" "web" 1]

/-- On the way the workload stands without its peer file, and in the end there are both. -/
theorem faultyStage_tidy :
    faultyStage.OnlyErrors ∧ (∀ e ∈ faultyHistory, e.group.name.IsText) ∧
      (∀ t ∈ (Reconciler.handleAll (.str "default") faultyHistory).states StagedCluster.answer
        faultyStage, Tidy (.str "default") t.cluster) ∧
      ((Reconciler.handleAll (.str "default") faultyHistory).states StagedCluster.answer
        faultyStage).map (fun t => (t.cluster.workloads.length, t.cluster.peerFiles.length)) =
        [(0, 0), (1, 0), (1, 0), (1, 0), (1, 0), (0, 0), (1, 0), (1, 1)] ∧
      ∀ x ∈ (Reconciler.handleAll (.str "default") faultyHistory).exchanges StagedCluster.answer
        faultyStage, ∀ n f, x.request = .createPeerFile n f →
          (x.before.cluster.createPeerFile n f).1 ≠ .error conflict := by
  have errors : faultyStage.OnlyErrors := by
    constructor <;> simp [faultyStage]
  have text : ∀ e ∈ faultyHistory, e.group.name.IsText := by decide
  obtain ⟨tidy, free⟩ := tidy_under_failures (.str "default") faultyStage faultyHistory rfl errors
  exact ⟨errors, text, fun t ht => (tidy t ht).1, by decide, free text⟩

end StagedCluster

end GroupOperator
