import GroupOperator.Proofs.Contents
import Mathlib.Data.List.Induction
import Mathlib.Data.List.Nodup

/-!
# Who owns what

The invariants of a cluster in which nobody but the operator works.

* `Tidy`: every object lies in the operator's namespace, no two workloads share a name, no two
  objects of a kind share an identifier, and every peer file has exactly one owner, a workload that
  is held, whose name it continues; no two peer files have the same owner.  This survives any
  creation that fails.
* `Complete`: moreover every workload has its peer file.  This takes names that are texts, because a
  text and a number can be written alike and would then compete for one peer file.

Both are shown of the three changes that objects can undergo (`withWorkload`, `withPeerFile`,
`withoutWorkload`), then of one event by `Cluster.Change`, and then of a history.
-/

namespace GroupOperator

/-! ## One more object -/

/-- What tells objects apart still does after one more, if it tells that one from the others. -/
theorem nodup_map_concat {α β : Type} {f : α → β} {l : List α} {a : α} (h : (l.map f).Nodup)
    (new : ∀ b ∈ l, f b ≠ f a) : ((l ++ [a]).map f).Nodup := by
  rw [List.map_append, List.map_singleton]
  refine List.nodup_append.mpr ⟨h, List.nodup_singleton _, ?_⟩
  intro x hx y hy
  obtain ⟨b, hb, rfl⟩ := List.mem_map.mp hx
  rw [List.mem_singleton.mp hy]
  exact new b hb

theorem forall_mem_concat {α : Type} {p : α → Prop} {l : List α} {a : α} :
    (∀ x ∈ l ++ [a], p x) ↔ (∀ x ∈ l, p x) ∧ p a := by
  rw [List.forall_mem_append, List.forall_mem_singleton]

/-! ## Names and identifiers -/

/-- A value that is a text. -/
def Value.IsText (v : Value) : Prop :=
  ∃ s, v = .str s

instance (v : Value) : Decidable v.IsText :=
  match v with
  | .str s => .isTrue ⟨s, rfl⟩
  | .null | .bool _ | .int _ | .float _ | .list _ | .object _ =>
    .isFalse fun ⟨_, h⟩ => Value.noConfusion h

/-- Groups with different texts for names have differently named peer files. -/
theorem peerFileName_injective {m n : Value} (hm : m.IsText) (hn : n.IsText)
    (h : Manifest.peerFileName m = Manifest.peerFileName n) : m = n := by
  obtain ⟨s, rfl⟩ := hm
  obtain ⟨t, rfl⟩ := hn
  have hst : s = t := (String.append_left_inj Schema.peerFileSuffix).mp h
  rw [hst]

/-- The identifier of an owner can be read off the references to it. -/
theorem owner_injective {s t : String} (h : [Value.str s] = [.str t]) : s = t :=
  Value.str.inj (List.cons.inj h).1

/-- A number can be read off its text. -/
theorem toString_nat_injective {m n : Nat} (h : toString m = toString n) : m = n := by
  rw [Nat.toString_eq_repr, Nat.toString_eq_repr] at h
  have hd := congrArg String.toList h
  rw [Nat.toList_repr, Nat.toList_repr] at hd
  rw [← Nat.ofDigitChars_ten_toDigits (n := m), hd, Nat.ofDigitChars_ten_toDigits]

namespace Cluster

/-- An identifier with that beginning was given to one of the first `created` objects. -/
def Issued (beginning : String) (created : Nat) (uid : String) : Prop :=
  ∃ k, k ≤ created ∧ uid = beginning ++ toString k

theorem Issued.later {beginning uid : String} {created : Nat}
    (h : Issued beginning created uid) : Issued beginning (created + 1) uid := by
  obtain ⟨k, hk, rfl⟩ := h
  exact ⟨k, by omega, rfl⟩

/-- The next identifier is not among those given so far. -/
theorem Issued.ne_next {beginning uid : String} {created : Nat}
    (h : Issued beginning created uid) : uid ≠ beginning ++ toString (created + 1) := by
  obtain ⟨k, hk, rfl⟩ := h
  intro he
  have := toString_nat_injective ((String.append_right_inj beginning).mp he)
  omega

/-! ## Tidy clusters -/

/-- A cluster in which nobody but an operator with the namespace `home` works. -/
structure Tidy (home : Value) (c : Cluster) : Prop where
  /-- Workloads lie in the operator's namespace. -/
  workload_home : ∀ w ∈ c.workloads, w.namespaceName = home
  /-- No two workloads share a name. -/
  workload_names : (c.workloads.map (·.name)).Nodup
  /-- No two workloads share an identifier. -/
  workload_uids : (c.workloads.map (·.uid)).Nodup
  /-- Identifiers of workloads were handed out by the cluster. -/
  workload_issued : ∀ w ∈ c.workloads, Issued "dep-" c.created w.uid
  /-- Peer files lie in the operator's namespace. -/
  peerFile_home : ∀ f ∈ c.peerFiles, f.namespaceName = home
  /-- A peer file has one owner, a workload whose name it continues. -/
  peerFile_owner : ∀ f ∈ c.peerFiles, ∃ w ∈ c.workloads,
    f.owners = [.str w.uid] ∧ f.name = .str (Manifest.peerFileName w.name)
  /-- No two peer files share an owner. -/
  peerFile_owners : (c.peerFiles.map (·.owners)).Nodup
  /-- No two peer files share an identifier. -/
  peerFile_uids : (c.peerFiles.map (·.uid)).Nodup
  /-- Identifiers of peer files were handed out by the cluster. -/
  peerFile_issued : ∀ f ∈ c.peerFiles, Issued "cm-" c.created f.uid

variable {home : Value} {c : Cluster}

theorem tidy_empty (home : Value) : Tidy home empty := by
  constructor <;> simp [empty]

namespace Tidy

/-- Two workloads of one name are one. -/
theorem workload_eq_of_name (h : Tidy home c) {v w : Stored Manifest.Workload}
    (hv : v ∈ c.workloads) (hw : w ∈ c.workloads) (hn : v.name = w.name) : v = w :=
  List.inj_on_of_nodup_map h.workload_names hv hw hn

/-- Two workloads of one identifier are one. -/
theorem workload_eq_of_uid (h : Tidy home c) {v w : Stored Manifest.Workload}
    (hv : v ∈ c.workloads) (hw : w ∈ c.workloads) (hu : v.uid = w.uid) : v = w :=
  List.inj_on_of_nodup_map h.workload_uids hv hw hu

/-- Two peer files of one owner are one. -/
theorem peerFile_eq_of_owners (h : Tidy home c) {f g : Stored Manifest.PeerFile}
    (hf : f ∈ c.peerFiles) (hg : g ∈ c.peerFiles) (ho : f.owners = g.owners) : f = g :=
  List.inj_on_of_nodup_map h.peerFile_owners hf hg ho

/-- The name under which a workload is looked up decides which one is found. -/
theorem workload?_eq_some_iff (h : Tidy home c) {name : Value} {w : Stored Manifest.Workload} :
    c.workload? home name = some w ↔ w ∈ c.workloads ∧ w.name = name := by
  constructor
  · intro hw
    obtain ⟨hm, -, hn⟩ := of_workload?_eq_some hw
    exact ⟨hm, hn⟩
  · rintro ⟨hm, hn⟩
    cases hc : c.workload? home name with
    | none => exact absurd ⟨h.workload_home w hm, hn⟩ (workload?_eq_none_iff.mp hc w hm)
    | some v =>
      obtain ⟨hv, -, hvn⟩ := of_workload?_eq_some hc
      rw [h.workload_eq_of_name hv hm (hvn.trans hn.symm)]

/-- Nothing owned by the next workload is there before it. -/
theorem owners_ne_next (h : Tidy home c) {f : Stored Manifest.PeerFile} (hf : f ∈ c.peerFiles) :
    f.owners ≠ [.str c.nextWorkloadUid] := by
  obtain ⟨w, hw, ho, -⟩ := h.peerFile_owner f hf
  rw [ho]
  exact fun he => (h.workload_issued w hw).ne_next (owner_injective he)

/-! ### Names that are texts

A peer file's name tells whose it is only if the names of workloads are texts. -/

/-- The workload whose name a peer file continues is the one that owns it. -/
theorem owners_of_name (h : Tidy home c) (text : ∀ w ∈ c.workloads, w.name.IsText)
    {w : Stored Manifest.Workload} {f : Stored Manifest.PeerFile} (hw : w ∈ c.workloads)
    (hf : f ∈ c.peerFiles) (name : f.name = .str (Manifest.peerFileName w.name)) :
    f.owners = [.str w.uid] := by
  obtain ⟨v, hv, ho, hvname⟩ := h.peerFile_owner f hf
  have hvw : v.name = w.name := peerFileName_injective (text v hv) (text w hw)
    (Value.str.inj (hvname.symm.trans name))
  rw [ho, h.workload_eq_of_name hv hw hvw]

/-- Where a workload is held, the peer file under its name is the one that it owns. -/
theorem peerFile?_eq_some_iff (h : Tidy home c) (text : ∀ w ∈ c.workloads, w.name.IsText)
    {w : Stored Manifest.Workload} (hw : w ∈ c.workloads) {f : Stored Manifest.PeerFile} :
    c.peerFile? home (.str (Manifest.peerFileName w.name)) = some f ↔
      f ∈ c.peerFiles ∧ f.owners = [.str w.uid] := by
  constructor
  · intro hf
    obtain ⟨hm, -, hname⟩ := of_peerFile?_eq_some hf
    exact ⟨hm, h.owners_of_name text hw hm hname⟩
  · rintro ⟨hm, ho⟩
    obtain ⟨v, hv, hov, hname⟩ := h.peerFile_owner f hm
    obtain rfl := h.workload_eq_of_uid hw hv (owner_injective (ho.symm.trans hov))
    cases hc : c.peerFile? home (.str (Manifest.peerFileName w.name)) with
    | none => exact absurd ⟨h.peerFile_home f hm, hname⟩ (peerFile?_eq_none_iff.mp hc f hm)
    | some g =>
      obtain ⟨hg, -, hgname⟩ := of_peerFile?_eq_some hc
      rw [h.peerFile_eq_of_owners hg hm ((h.owners_of_name text hw hg hgname).trans ho.symm)]

/-! ### The three changes -/

theorem withWorkload (h : Tidy home c) {w : Manifest.Workload}
    (absent : c.workload? home w.name = none) : Tidy home (c.withWorkload home w) where
  workload_home := forall_mem_concat.mpr ⟨h.workload_home, rfl⟩
  workload_names := nodup_map_concat h.workload_names fun v hv hn =>
    workload?_eq_none_iff.mp absent v hv ⟨h.workload_home v hv, hn⟩
  workload_uids := nodup_map_concat h.workload_uids fun v hv => (h.workload_issued v hv).ne_next
  workload_issued := forall_mem_concat.mpr
    ⟨fun v hv => (h.workload_issued v hv).later, c.created + 1, Nat.le_refl _, rfl⟩
  peerFile_home := h.peerFile_home
  peerFile_owner := by
    intro f hf
    obtain ⟨v, hv, hfv⟩ := h.peerFile_owner f hf
    exact ⟨v, List.mem_append_left _ hv, hfv⟩
  peerFile_owners := h.peerFile_owners
  peerFile_uids := h.peerFile_uids
  peerFile_issued := fun f hf => (h.peerFile_issued f hf).later

theorem withPeerFile (h : Tidy home c) {w : Stored Manifest.Workload} {f : Manifest.PeerFile}
    (hw : w ∈ c.workloads) (name : f.name = Manifest.peerFileName w.name)
    (owner : f.owners.map (·.uid) = [.str w.uid])
    (unowned : ∀ g ∈ c.peerFiles, g.owners ≠ [.str w.uid]) :
    Tidy home (c.withPeerFile home f) where
  workload_home := h.workload_home
  workload_names := h.workload_names
  workload_uids := h.workload_uids
  workload_issued := fun v hv => (h.workload_issued v hv).later
  peerFile_home := forall_mem_concat.mpr ⟨h.peerFile_home, rfl⟩
  peerFile_owner := forall_mem_concat.mpr
    ⟨h.peerFile_owner, w, hw, owner, congrArg Value.str name⟩
  peerFile_owners := nodup_map_concat h.peerFile_owners fun g hg he =>
    unowned g hg (he.trans owner)
  peerFile_uids := nodup_map_concat h.peerFile_uids fun g hg => (h.peerFile_issued g hg).ne_next
  peerFile_issued := forall_mem_concat.mpr
    ⟨fun g hg => (h.peerFile_issued g hg).later, c.created + 1, Nat.le_refl _, rfl⟩

/-- What goes with a workload is exactly what it owns. -/
theorem mem_peerFiles_withoutWorkload_iff (h : Tidy home c) {w : Stored Manifest.Workload}
    {namespaceName name : Value} (present : c.workload? namespaceName name = some w)
    {f : Stored Manifest.PeerFile} :
    f ∈ (c.withoutWorkload namespaceName name w.uid).peerFiles ↔
      f ∈ c.peerFiles ∧ f.owners ≠ [.str w.uid] := by
  obtain ⟨hw, rfl, rfl⟩ := of_workload?_eq_some present
  rw [mem_peerFiles_withoutWorkload]
  refine and_congr_right fun hf => not_congr ?_
  obtain ⟨v, hv, ho, -⟩ := h.peerFile_owner f hf
  rw [h.peerFile_home f hf, h.workload_home w hw, ho]
  simp [Value.equals_refl, eq_comm]

/-- What a workload that stays owns stays as well. -/
theorem peerFile_stays (h : Tidy home c) {v w : Stored Manifest.Workload}
    {namespaceName name : Value} (present : c.workload? namespaceName name = some w)
    (hv : v ∈ (c.withoutWorkload namespaceName name w.uid).workloads)
    {f : Stored Manifest.PeerFile} (hf : f ∈ c.peerFiles) (owner : f.owners = [.str v.uid]) :
    f ∈ (c.withoutWorkload namespaceName name w.uid).peerFiles := by
  obtain ⟨hvc, hne⟩ := mem_workloads_withoutWorkload.mp hv
  obtain ⟨hw, hns, hname⟩ := of_workload?_eq_some present
  refine (h.mem_peerFiles_withoutWorkload_iff present).mpr ⟨hf, ?_⟩
  -- the peer file would go only with a workload of the same identifier
  rw [owner]
  intro he
  obtain rfl := h.workload_eq_of_uid hvc hw (owner_injective he)
  exact hne ⟨hns, hname⟩

theorem withoutWorkload (h : Tidy home c) {w : Stored Manifest.Workload}
    {namespaceName name : Value} (present : c.workload? namespaceName name = some w) :
    Tidy home (c.withoutWorkload namespaceName name w.uid) where
  workload_home := fun v hv => h.workload_home v (mem_workloads_withoutWorkload.mp hv).1
  workload_names := h.workload_names.sublist (List.filter_sublist.map _)
  workload_uids := h.workload_uids.sublist (List.filter_sublist.map _)
  workload_issued := fun v hv => h.workload_issued v (mem_workloads_withoutWorkload.mp hv).1
  peerFile_home := fun f hf => h.peerFile_home f (mem_peerFiles_withoutWorkload.mp hf).1
  peerFile_owner := by
    intro f hf
    obtain ⟨hfc, hne⟩ := (h.mem_peerFiles_withoutWorkload_iff present).mp hf
    obtain ⟨hw, hwn, hwname⟩ := of_workload?_eq_some present
    obtain ⟨v, hv, ho, hname⟩ := h.peerFile_owner f hfc
    refine ⟨v, mem_workloads_withoutWorkload.mpr ⟨hv, ?_⟩, ho, hname⟩
    -- an owner that went would be the workload that went, and would have taken `f` along
    rintro ⟨-, hvname⟩
    rw [h.workload_eq_of_name hv hw (hvname.trans hwname.symm)] at ho
    exact hne ho
  peerFile_owners := h.peerFile_owners.sublist (List.filter_sublist.map _)
  peerFile_uids := h.peerFile_uids.sublist (List.filter_sublist.map _)
  peerFile_issued := fun f hf => h.peerFile_issued f (mem_peerFiles_withoutWorkload.mp hf).1

/-! ### One event -/

/-- The peer file of a new workload leaves the cluster tidy, whether or not it can be created. -/
theorem createPeerFile_next (h : Tidy home c) {g : ServiceGroup} {w : Manifest.Workload}
    (name : w.name = g.name) (absent : c.workload? home w.name = none) :
    Tidy home ((c.withWorkload home w).createPeerFile home
      (Manifest.peerFile g home [c.nextOwner w.name])).2 := by
  have hw := h.withWorkload absent
  cases hf : (c.withWorkload home w).peerFile? home
      (.str (Manifest.peerFile g home [c.nextOwner w.name]).name) with
  | some o =>
    rw [createPeerFile_of_some hf]
    exact hw
  | none =>
    rw [createPeerFile_of_none hf]
    refine hw.withPeerFile (List.mem_append_right _ (List.mem_singleton_self _)) ?_ rfl
      fun f hf => h.owners_ne_next hf
    rw [Manifest.peerFile, name]

theorem change (h : Tidy home c) {e : Event} {c' : Cluster} (hc : Change home c e c') :
    Tidy home c' := by
  cases hc with
  | materialized added valid manifest absent =>
    have hname := Manifest.name_of_workload? manifest
    exact h.createPeerFile_next hname (hname ▸ absent)
  | dissolved deleted present => exact h.withoutWorkload present
  | kept added deleted => exact h

end Tidy

/-- A cluster that only the operator worked on is tidy. -/
theorem tidy_afterEvents (h : Tidy home c) (history : List Event) :
    Tidy home (c.afterEvents home history) := by
  induction history using List.reverseRecOn with
  | nil => exact h
  | append_singleton history e ih => exact ih.change (change_afterEvents home c history e)

/-! ## Complete clusters -/

/-- A tidy cluster with named workloads, each of which has its peer file. -/
structure Complete (home : Value) (c : Cluster) : Prop extends Tidy home c where
  /-- The names of workloads are texts. -/
  workload_text : ∀ w ∈ c.workloads, w.name.IsText
  /-- Every workload owns a peer file. -/
  workload_peerFile : ∀ w ∈ c.workloads, ∃ f ∈ c.peerFiles, f.owners = [.str w.uid]

theorem complete_empty (home : Value) : Complete home empty where
  toTidy := tidy_empty home
  workload_text := by simp [empty]
  workload_peerFile := by simp [empty]

namespace Complete

/-- Where no workload of a name is held, no peer file continues that name. -/
theorem peerFile?_eq_none (h : Complete home c) {name : Value} (text : name.IsText)
    (absent : c.workload? home name = none) :
    c.peerFile? home (.str (Manifest.peerFileName name)) = none := by
  refine peerFile?_eq_none_iff.mpr ?_
  rintro f hf ⟨-, hname⟩
  obtain ⟨v, hv, -, hvname⟩ := h.peerFile_owner f hf
  have hvn : v.name = name := peerFileName_injective (h.workload_text v hv) text
    (Value.str.inj (hvname.symm.trans hname))
  exact workload?_eq_none_iff.mp absent v hv ⟨h.workload_home v hv, hvn⟩

/-- Where a workload is looked up, its peer file can be. -/
theorem exists_peerFile? (h : Complete home c) {name : Value} {w : Stored Manifest.Workload}
    (hw : c.workload? home name = some w) :
    ∃ f, c.peerFile? home (.str (Manifest.peerFileName name)) = some f ∧
      f.owners = [.str w.uid] := by
  obtain ⟨hm, -, rfl⟩ := of_workload?_eq_some hw
  obtain ⟨f, hf, ho⟩ := h.workload_peerFile w hm
  exact ⟨f, (h.peerFile?_eq_some_iff h.workload_text hm).mpr ⟨hf, ho⟩, ho⟩

/-- The peer file of a new workload can be created. -/
theorem createPeerFile_next (h : Complete home c) {g : ServiceGroup} {w : Manifest.Workload}
    (text : g.name.IsText) (absent : c.workload? home g.name = none) :
    ((c.withWorkload home w).createPeerFile home
      (Manifest.peerFile g home [c.nextOwner w.name])).2 =
        (c.withWorkload home w).withPeerFile home
          (Manifest.peerFile g home [c.nextOwner w.name]) := by
  have hf : (c.withWorkload home w).peerFile? home
      (.str (Manifest.peerFile g home [c.nextOwner w.name]).name) = none :=
    h.peerFile?_eq_none text absent
  rw [createPeerFile_of_none hf]

theorem change (h : Complete home c) {e : Event} {c' : Cluster} (text : e.group.name.IsText)
    (hc : Change home c e c') : Complete home c' := by
  refine { toTidy := h.toTidy.change hc, workload_text := ?_, workload_peerFile := ?_ }
  · cases hc with
    | materialized added valid manifest absent =>
      rw [workloads_createPeerFile]
      exact forall_mem_concat.mpr
        ⟨h.workload_text, Manifest.name_of_workload? manifest ▸ text⟩
    | dissolved deleted present =>
      exact fun v hv => h.workload_text v (mem_workloads_withoutWorkload.mp hv).1
    | kept added deleted => exact h.workload_text
  · cases hc with
    | materialized added valid manifest absent =>
      rw [h.createPeerFile_next text absent]
      refine forall_mem_concat.mpr ⟨?_, _, List.mem_append_right _ (List.mem_singleton_self _), rfl⟩
      intro v hv
      obtain ⟨f, hf, ho⟩ := h.workload_peerFile v hv
      exact ⟨f, List.mem_append_left _ hf, ho⟩
    | dissolved deleted present =>
      intro v hv
      obtain ⟨f, hf, ho⟩ := h.workload_peerFile v (mem_workloads_withoutWorkload.mp hv).1
      exact ⟨f, h.peerFile_stays present hv hf ho, ho⟩
    | kept added deleted => exact h.workload_peerFile

end Complete

/-- A cluster that only the operator worked on, for groups whose names are texts, is complete. -/
theorem complete_afterEvents (h : Complete home c) {history : List Event}
    (text : ∀ e ∈ history, e.group.name.IsText) : Complete home (c.afterEvents home history) := by
  induction history using List.reverseRecOn with
  | nil => exact h
  | append_singleton history e ih =>
    obtain ⟨hh, he⟩ := forall_mem_concat.mp text
    exact (ih hh).change he (change_afterEvents home c history e)

end Cluster

end GroupOperator
