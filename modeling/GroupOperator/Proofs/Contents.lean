import GroupOperator.Proofs.Handling

/-!
# What an event does to a cluster

The cluster in memory answers requests by what it holds, so the answers can be read away as the
records were.  One event does one of three things (`Cluster.Change`):

* a valid group is added and no workload of its name stands in the operator's namespace: a workload
  is created there, and then its peer file;
* a group is deleted and a workload stands under the group's own namespace and name: it goes, and
  the peer files that it owns go with it;
* anything else leaves the cluster as it is.

`Cluster.change_settle` is the only place where requests and answers are looked at.
-/

namespace GroupOperator

theorem Stored.isAt_iff {α : Type} {o : Stored α} {namespaceName name : Value} :
    o.isAt namespaceName name = true ↔ o.namespaceName = namespaceName ∧ o.name = name := by
  simp only [isAt, Bool.and_eq_true, decide_eq_true_eq]

/-- A valid group has a workload. -/
theorem Manifest.workload?_of_isValid {g : ServiceGroup} (h : g.IsValid) (home : Value) :
    ∃ w, Manifest.workload? g home = .ok w := by
  obtain ⟨-, -, -, n, hn, -, -⟩ := ServiceGroup.isValid_iff.mp h
  rw [Manifest.workload?, hn]
  exact ⟨_, rfl⟩

/-- What a workload says beside how many replicas there are to be. -/
theorem Manifest.eq_of_workload? {g : ServiceGroup} {home : Value} {w : Manifest.Workload}
    (h : Manifest.workload? g home = .ok w) :
    w = { name := workloadName g.name, namespaceName := home, replicas := w.replicas,
          selector := podLabels g.name, pod := pod g } := by
  cases hr : Manifest.replicas? g.count with
  | error f =>
    rw [Manifest.workload?, hr] at h
    cases h
  | ok n =>
    rw [Manifest.workload?, hr] at h
    obtain rfl := Except.ok.inj h
    rfl

/-- A workload has the name of its group. -/
theorem Manifest.name_of_workload? {g : ServiceGroup} {home : Value} {w : Manifest.Workload}
    (h : Manifest.workload? g home = .ok w) : w.name = g.name := by
  rw [Manifest.eq_of_workload? h]
  rfl

/-- The workload of a valid group has a name. -/
theorem Manifest.name_ne_null {g : ServiceGroup} {home : Value} {w : Manifest.Workload}
    (valid : g.IsValid) (h : Manifest.workload? g home = .ok w) : w.name ≠ .null := by
  intro unnamed
  have present := (ServiceGroup.isValid_iff.mp valid).1
  rw [← Manifest.name_of_workload? h, unnamed] at present
  cases present

/-- The workload of a valid group has the group's count for replicas and runs the group's image. -/
theorem Manifest.of_workload?_eq_ok {g : ServiceGroup} {home : Value} {w : Manifest.Workload}
    (valid : g.IsValid) (h : Manifest.workload? g home = .ok w) :
    g.count = .int w.replicas ∧ w.pod.containers.map (·.image) = [g.image] := by
  obtain ⟨-, -, -, n, hn, -, -⟩ := ServiceGroup.isValid_iff.mp valid
  rw [Manifest.workload?, hn] at h
  obtain rfl := Except.ok.inj h
  exact ⟨hn, rfl⟩

namespace Cluster

/-! ## Adding and removing objects -/

/-- The cluster with one more workload. -/
def withWorkload (c : Cluster) (namespaceName : Value) (w : Manifest.Workload) : Cluster :=
  { c with created := c.created + 1,
           workloads := c.workloads ++ [⟨namespaceName, w.name, c.nextWorkloadUid, w⟩] }

/-- The cluster with one more peer file. -/
def withPeerFile (c : Cluster) (namespaceName : Value) (f : Manifest.PeerFile) : Cluster :=
  { c with created := c.created + 1,
           peerFiles := c.peerFiles ++ [⟨namespaceName, .str f.name, c.nextPeerFileUid, f⟩] }

/-- The cluster without the workload of that namespace and name, whose identifier is `uid`, and
without what it owns there. -/
def withoutWorkload (c : Cluster) (namespaceName name : Value) (uid : String) : Cluster :=
  collect { c with workloads := c.workloads.filter fun o => !o.isAt namespaceName name }
    namespaceName uid

theorem createWorkload_of_none {c : Cluster} {namespaceName : Value} {w : Manifest.Workload}
    (h : c.workload? namespaceName w.name = none) :
    c.createWorkload namespaceName w =
      (.ok ⟨w.name, namespaceName, .str c.nextWorkloadUid⟩, c.withWorkload namespaceName w) := by
  simp only [createWorkload, h, withWorkload]

theorem createWorkload_of_some {c : Cluster} {namespaceName : Value} {w : Manifest.Workload}
    {o : Stored Manifest.Workload} (h : c.workload? namespaceName w.name = some o) :
    c.createWorkload namespaceName w = (.error conflict, c) := by
  simp only [createWorkload, h]

theorem createPeerFile_of_none {c : Cluster} {namespaceName : Value} {f : Manifest.PeerFile}
    (h : c.peerFile? namespaceName (.str f.name) = none) :
    c.createPeerFile namespaceName f =
      (.ok ⟨.str f.name, namespaceName, .str c.nextPeerFileUid⟩,
        c.withPeerFile namespaceName f) := by
  simp only [createPeerFile, h, withPeerFile]

theorem createPeerFile_of_some {c : Cluster} {namespaceName : Value} {f : Manifest.PeerFile}
    {o : Stored Manifest.PeerFile} (h : c.peerFile? namespaceName (.str f.name) = some o) :
    c.createPeerFile namespaceName f = (.error conflict, c) := by
  simp only [createPeerFile, h]

theorem deleteWorkload_of_none {c : Cluster} {name namespaceName policy : Value}
    (h : c.workload? namespaceName name = none) :
    c.deleteWorkload name namespaceName policy = (.error notFound, c) := by
  simp only [deleteWorkload, h]

theorem deleteWorkload_of_some {c : Cluster} {name namespaceName : Value}
    {o : Stored Manifest.Workload} (h : c.workload? namespaceName name = some o) :
    c.deleteWorkload name namespaceName (.str Schema.backgroundPropagation) =
      (.ok (), c.withoutWorkload namespaceName name o.uid) := by
  simp only [deleteWorkload, h, if_true, withoutWorkload]

/-! ## Looking up -/

theorem workload?_eq_none_iff {c : Cluster} {namespaceName name : Value} :
    c.workload? namespaceName name = none ↔
      ∀ o ∈ c.workloads, ¬ (o.namespaceName = namespaceName ∧ o.name = name) := by
  simp only [workload?, List.find?_eq_none, Stored.isAt_iff]

theorem peerFile?_eq_none_iff {c : Cluster} {namespaceName name : Value} :
    c.peerFile? namespaceName name = none ↔
      ∀ o ∈ c.peerFiles, ¬ (o.namespaceName = namespaceName ∧ o.name = name) := by
  simp only [peerFile?, List.find?_eq_none, Stored.isAt_iff]

/-- A workload that is looked up is held, under that namespace and name. -/
theorem of_workload?_eq_some {c : Cluster} {namespaceName name : Value}
    {o : Stored Manifest.Workload} (h : c.workload? namespaceName name = some o) :
    o ∈ c.workloads ∧ o.namespaceName = namespaceName ∧ o.name = name :=
  ⟨List.mem_of_find?_eq_some h, Stored.isAt_iff.mp (List.find?_some h)⟩

/-- A peer file that is looked up is held, under that namespace and name. -/
theorem of_peerFile?_eq_some {c : Cluster} {namespaceName name : Value}
    {o : Stored Manifest.PeerFile} (h : c.peerFile? namespaceName name = some o) :
    o ∈ c.peerFiles ∧ o.namespaceName = namespaceName ∧ o.name = name :=
  ⟨List.mem_of_find?_eq_some h, Stored.isAt_iff.mp (List.find?_some h)⟩

theorem workload?_withWorkload (c : Cluster) (home namespaceName name : Value)
    (w : Manifest.Workload) :
    (c.withWorkload home w).workload? namespaceName name =
      (c.workload? namespaceName name).or
        (if home = namespaceName ∧ w.name = name then some ⟨home, w.name, c.nextWorkloadUid, w⟩
          else none) := by
  simp only [workload?, withWorkload, List.find?_append, List.find?_cons, List.find?_nil]
  by_cases h : home = namespaceName ∧ w.name = name
  · rw [if_pos h, Stored.isAt_iff.mpr h]
  · rw [if_neg h, Bool.eq_false_iff.mpr (fun hc => h (Stored.isAt_iff.mp hc))]

@[simp] theorem workloads_createPeerFile (c : Cluster) (namespaceName : Value)
    (f : Manifest.PeerFile) : (c.createPeerFile namespaceName f).2.workloads = c.workloads := by
  simp only [createPeerFile]
  split <;> rfl

@[simp] theorem workload?_createPeerFile (c : Cluster) (home namespaceName name : Value)
    (f : Manifest.PeerFile) :
    (c.createPeerFile home f).2.workload? namespaceName name = c.workload? namespaceName name := by
  rw [workload?, workloads_createPeerFile, workload?]

@[simp] theorem workloads_withoutWorkload (c : Cluster) (namespaceName name : Value)
    (uid : String) :
    (c.withoutWorkload namespaceName name uid).workloads =
      c.workloads.filter fun o => !o.isAt namespaceName name := rfl

theorem mem_workloads_withoutWorkload {c : Cluster} {namespaceName name : Value} {uid : String}
    {o : Stored Manifest.Workload} :
    o ∈ (c.withoutWorkload namespaceName name uid).workloads ↔
      o ∈ c.workloads ∧ ¬ (o.namespaceName = namespaceName ∧ o.name = name) := by
  rw [workloads_withoutWorkload, List.mem_filter, Bool.not_eq_true', Bool.eq_false_iff, ne_eq,
    Stored.isAt_iff]

theorem workload?_withoutWorkload (c : Cluster) (namespaceName name m l : Value) (uid : String) :
    (c.withoutWorkload namespaceName name uid).workload? m l =
      if namespaceName = m ∧ name = l then none else c.workload? m l := by
  split
  · rename_i h
    obtain ⟨rfl, rfl⟩ := h
    exact workload?_eq_none_iff.mpr fun o ho => (mem_workloads_withoutWorkload.mp ho).2
  · rename_i h
    rw [workload?, workloads_withoutWorkload, List.find?_filter, workload?]
    congr 1
    funext o
    by_cases hl : o.isAt m l = true
    · obtain ⟨rfl, rfl⟩ := Stored.isAt_iff.mp hl
      have hn : ¬ o.isAt namespaceName name = true := fun hn =>
        h ⟨(Stored.isAt_iff.mp hn).1.symm, (Stored.isAt_iff.mp hn).2.symm⟩
      simp [hl, hn]
    · simp [hl]

theorem mem_peerFiles_withoutWorkload {c : Cluster} {namespaceName name : Value} {uid : String}
    {f : Stored Manifest.PeerFile} :
    f ∈ (c.withoutWorkload namespaceName name uid).peerFiles ↔
      f ∈ c.peerFiles ∧
        ¬ (f.namespaceName.equals namespaceName = true ∧ Value.str uid ∈ f.owners) := by
  simp only [withoutWorkload, collect, List.mem_filter, Bool.not_eq_true', Bool.and_eq_false_iff,
    List.contains_eq_mem, not_and, decide_eq_false_iff_not]
  cases f.namespaceName.equals namespaceName <;> simp

/-! ## What one event does -/

/-- The reference by which a peer file is owned by the workload that is created next. -/
def nextOwner (c : Cluster) (name : Value) : Manifest.Owner :=
  ⟨Manifest.Workload.typeFields.1, Manifest.Workload.typeFields.2, name, .str c.nextWorkloadUid⟩

/-- What the handling of an event makes of a cluster. -/
inductive Change (home : Value) (c : Cluster) (e : Event) : Cluster → Prop where
  /-- A workload is created, and then its peer file. -/
  | materialized {w : Manifest.Workload} (added : e.kind = .added) (valid : e.group.IsValid)
      (manifest : Manifest.workload? e.group home = .ok w)
      (absent : c.workload? home e.group.name = none) :
      Change home c e ((c.withWorkload home w).createPeerFile home
        (Manifest.peerFile e.group home [c.nextOwner w.name])).2
  /-- A workload goes, and what it owns goes with it. -/
  | dissolved {o : Stored Manifest.Workload} (deleted : e.kind = .deleted)
      (present : c.workload? e.group.namespaceName e.group.name = some o) :
      Change home c e (c.withoutWorkload e.group.namespaceName e.group.name o.uid)
  /-- Nothing is done, because there is nothing to do. -/
  | kept (added : e.kind = .added → e.group.IsValid → c.workload? home e.group.name ≠ none)
      (deleted : e.kind = .deleted → c.workload? e.group.namespaceName e.group.name = none) :
      Change home c e c

/-- The identity of a created workload is all that an owner reference to it takes. -/
theorem owner?_identityOf {c : Cluster} {home name : Value} (h : name ≠ .null) :
    Manifest.owner? (Gateway.identityOf ⟨name, home, .str c.nextWorkloadUid⟩ home) =
      .ok (c.nextOwner name) := by
  have huid : (Value.str c.nextWorkloadUid).orElse (.str "") = .str c.nextWorkloadUid := by
    rw [Value.orElse]
    split
    · rfl
    · rename_i hu
      rw [Value.isPresent, decide_eq_true_eq, Decidable.not_not] at hu
      rw [hu]
  rw [Manifest.owner?, Gateway.identityOf, huid, if_neg h, if_neg (by simp)]
  rfl

/-- The one inversion of handling: everything that an event can do to a cluster in memory. -/
theorem change_settle (home : Value) (c : Cluster) (e : Event) :
    Change home c e (Reconciler.settle Cluster.answer home c e) := by
  rw [Reconciler.settle]
  cases hk : e.kind with
  | added =>
    by_cases hv : e.group.IsValid
    · obtain ⟨w, hw⟩ := Manifest.workload?_of_isValid hv home
      have hname := Manifest.name_of_workload? hw
      have hnull := Manifest.name_ne_null hv hw
      simp only [if_pos hv, Reconciler.settleWorkload, hw, Cluster.answer]
      cases hc : c.workload? home w.name with
      | some o =>
        rw [createWorkload_of_some hc]
        refine .kept (fun _ _ hn => ?_) (fun hd => ?_)
        · rw [← hname, hc] at hn
          cases hn
        · rw [hk] at hd
          cases hd
      | none =>
        simp only [createWorkload_of_none hc, Reconciler.settlePeerFile, owner?_identityOf hnull,
          Cluster.answer]
        exact .materialized hk hv hw (hname ▸ hc)
    · simp only [if_neg hv]
      exact .kept (fun _ hv' => absurd hv' hv) (fun hd => by rw [hk] at hd; cases hd)
  | modified =>
    exact .kept (fun ha => by rw [hk] at ha; cases ha) (fun hd => by rw [hk] at hd; cases hd)
  | deleted =>
    simp only [Manifest.workloadName, Cluster.answer]
    cases hc : c.workload? e.group.namespaceName e.group.name with
    | none =>
      rw [deleteWorkload_of_none hc]
      exact .kept (fun ha => by rw [hk] at ha; cases ha) (fun _ => hc)
    | some o =>
      rw [deleteWorkload_of_some hc]
      exact .dissolved hk hc

/-! ## What a history does -/

theorem afterEvents_eq_foldl (home : Value) (c : Cluster) (history : List Event) :
    c.afterEvents home history = history.foldl (Reconciler.settle Cluster.answer home) c :=
  Reconciler.state_handleAll Cluster.answer home c history

theorem afterEvents_append (home : Value) (c : Cluster) (first rest : List Event) :
    c.afterEvents home (first ++ rest) = (c.afterEvents home first).afterEvents home rest := by
  simp only [afterEvents_eq_foldl, List.foldl_append]

theorem afterEvents_concat (home : Value) (c : Cluster) (history : List Event) (e : Event) :
    c.afterEvents home (history ++ [e]) =
      Reconciler.settle Cluster.answer home (c.afterEvents home history) e := by
  simp only [afterEvents_eq_foldl, List.foldl_append, List.foldl_cons, List.foldl_nil]

/-- The last event of a history is a change to what the earlier ones left. -/
theorem change_afterEvents (home : Value) (c : Cluster) (history : List Event) (e : Event) :
    Change home (c.afterEvents home history) e (c.afterEvents home (history ++ [e])) := by
  rw [afterEvents_concat]
  exact change_settle home _ e

end Cluster

/-! ## Events to try things out with -/

/-- An event about a group with a valid image. -/
def Event.sample (kind : EventKind) (namespaceName name : String) (count : Int) : Event where
  kind
  group :=
    { identity := ⟨.str name, .str namespaceName, .str ""⟩, count := .int count,
      image := .str "nginx", selfLink := .str "" }
  old := none

end GroupOperator
