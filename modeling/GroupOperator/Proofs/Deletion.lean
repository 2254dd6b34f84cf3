import GroupOperator.Proofs.Ownership
import Mathlib.Data.List.Induction

/-!
# What a deletion takes away

A deleted group's workload is addressed by the group's own namespace and name, while an added
group's workload is created in the operator's namespace, and nobody remembers who created what.  Two
things follow.

* The deletion of a group of the operator's namespace removes the workload that stands there under
  the group's name, whoever put it there: it was there when the history began, or some group of the
  same name was added, of whatever namespace (`Cluster.removed_by_deletion`).  Neither can be left
  out (`Cluster.removal_of_unrelated_workload`).
* The deletion of a group undoes its addition exactly if the group lies in the operator's namespace;
  otherwise both the workload and its peer file stay (`Cluster.deletion_undoes_addition_iff`).
-/

namespace GroupOperator.Cluster

variable {home : Value} {c c' : Cluster}

/-! ## How a workload comes and goes -/

namespace Change

variable {e : Event} {d : Stored Manifest.Workload}

/-- Only the deletion of a group of its namespace and name removes a workload. -/
theorem of_workload_gone (hc : Change home c e c') (held : d ∈ c.workloads)
    (gone : d ∉ c'.workloads) :
    e.kind = .deleted ∧ d.namespaceName = e.group.namespaceName ∧ d.name = e.group.name := by
  cases hc with
  | materialized added valid manifest absent =>
    rw [workloads_createPeerFile] at gone
    exact absurd (List.mem_append_left _ held) gone
  | dissolved deleted present =>
    refine ⟨deleted, Decidable.byContradiction fun hne => ?_⟩
    exact gone (mem_workloads_withoutWorkload.mpr ⟨held, hne⟩)
  | kept added deleted => exact absurd held gone

/-- Only the addition of a valid group of its name creates a workload, in the operator's namespace
and where none stood. -/
theorem of_workload_new (hc : Change home c e c') (new : d ∉ c.workloads)
    (held : d ∈ c'.workloads) :
    e.kind = .added ∧ e.group.IsValid ∧ d.namespaceName = home ∧ d.name = e.group.name ∧
      c.workload? home d.name = none := by
  cases hc with
  | materialized added valid manifest absent =>
    have hname := Manifest.name_of_workload? manifest
    rw [workloads_createPeerFile] at held
    rcases List.mem_append.mp held with hd | hd
    · exact absurd hd new
    · rw [List.mem_singleton.mp hd]
      exact ⟨added, valid, rfl, hname, hname ▸ absent⟩
  | dissolved deleted present =>
    exact absurd (mem_workloads_withoutWorkload.mp held).1 new
  | kept added deleted => exact absurd held new

/-- What a workload owns stays as long as the workload does. -/
theorem peerFile_stays (h : Tidy home c) (hc : Change home c e c') (stays : d ∈ c'.workloads)
    {f : Stored Manifest.PeerFile} (hf : f ∈ c.peerFiles) (owner : f.owners = [.str d.uid]) :
    f ∈ c'.peerFiles := by
  cases hc with
  | materialized added valid manifest absent =>
    simp only [createPeerFile]
    split
    · exact hf
    · exact List.mem_append_left _ hf
  | dissolved deleted present => exact h.peerFile_stays present stays hf owner
  | kept added deleted => exact hf

/-- With a new workload comes one new peer file, and the workload owns it. -/
theorem peerFile_new (h : Complete home c) (hc : Change home c e c') (text : e.group.name.IsText)
    (new : d ∉ c.workloads) (held : d ∈ c'.workloads) :
    ∃ f, c'.peerFiles = c.peerFiles ++ [f] ∧ f ∉ c.peerFiles ∧ f.owners = [.str d.uid] := by
  cases hc with
  | materialized added valid manifest absent =>
    rw [workloads_createPeerFile] at held
    rcases List.mem_append.mp held with hd | hd
    · exact absurd hd new
    · rw [List.mem_singleton.mp hd, h.createPeerFile_next text absent]
      exact ⟨_, rfl, fun hf => h.owners_ne_next hf rfl, rfl⟩
  | dissolved deleted present =>
    exact absurd (mem_workloads_withoutWorkload.mp held).1 new
  | kept added deleted => exact absurd held new

/-- What a deleted workload owns goes with it. -/
theorem peerFile_gone (h : Tidy home c) (hc : Change home c e c') (held : d ∈ c.workloads)
    (gone : d ∉ c'.workloads) {f : Stored Manifest.PeerFile} (owner : f.owners = [.str d.uid]) :
    f ∉ c'.peerFiles := by
  cases hc with
  | materialized added valid manifest absent =>
    rw [workloads_createPeerFile] at gone
    exact absurd (List.mem_append_left _ held) gone
  | dissolved deleted present =>
    obtain ⟨hw, hns, hname⟩ := of_workload?_eq_some present
    have hd : d.name = _ := (Decidable.byContradiction fun hne =>
      gone (mem_workloads_withoutWorkload.mpr ⟨held, hne⟩) : d.namespaceName = _ ∧ d.name = _).2
    rw [h.workload_eq_of_name held hw (hd.trans hname.symm)] at owner
    exact fun hf => ((h.mem_peerFiles_withoutWorkload_iff present).mp hf).2 owner
  | kept added deleted => exact absurd held gone

end Change

/-! ## Where a workload comes from -/

/-- A history, beginning with the cluster `c`, has at some point created a workload by the addition
of a valid group of which `p` holds. -/
def CreatedBy (home : Value) (c : Cluster) (p : ServiceGroup → Prop) (history : List Event)
    (d : Stored Manifest.Workload) : Prop :=
  ∃ earlier a later, history = earlier ++ a :: later ∧
    a.kind = .added ∧ a.group.IsValid ∧ p a.group ∧
    d ∉ (c.afterEvents home earlier).workloads ∧ d ∈ (c.afterEvents home (earlier ++ [a])).workloads

theorem CreatedBy.concat {p : ServiceGroup → Prop} {history : List Event}
    {d : Stored Manifest.Workload} (h : CreatedBy home c p history d) (e : Event) :
    CreatedBy home c p (history ++ [e]) d := by
  obtain ⟨earlier, a, later, rfl, rest⟩ := h
  exact ⟨earlier, a, later ++ [e], by rw [List.append_assoc, List.cons_append], rest⟩

/-- A workload that is held was there from the beginning, or was created in the operator's namespace
when a group of its name was added. -/
theorem origin_of_workload {history : List Event} {d : Stored Manifest.Workload}
    (held : d ∈ (c.afterEvents home history).workloads) :
    d ∈ c.workloads ∨
      (d.namespaceName = home ∧ CreatedBy home c (·.name = d.name) history d) := by
  induction history using List.reverseRecOn with
  | nil => exact .inl held
  | append_singleton history e ih =>
    by_cases before : d ∈ (c.afterEvents home history).workloads
    · rcases ih before with first | ⟨hns, created⟩
      · exact .inl first
      · exact .inr ⟨hns, created.concat e⟩
    · obtain ⟨added, valid, hns, hname, -⟩ :=
        (change_afterEvents home c history e).of_workload_new before held
      exact .inr ⟨hns, history, e, [], rfl, added, valid, hname.symm, before, held⟩

/-- **What a deletion removes.**  An event about a group of the operator's namespace that removes a
workload is a deletion, and the workload stood in that namespace under the group's name.  Either it
was there when the history began, or some valid group of the same name, which may lie anywhere, was
added earlier and had this very workload created. -/
theorem removed_by_deletion (home : Value) (c : Cluster) (history : List Event) (e : Event)
    (d : Stored Manifest.Workload) (inside : e.group.namespaceName = home)
    (held : d ∈ (c.afterEvents home history).workloads)
    (gone : d ∉ (c.afterEvents home (history ++ [e])).workloads) :
    e.kind = .deleted ∧ d.namespaceName = home ∧ d.name = e.group.name ∧
      (d ∈ c.workloads ∨ CreatedBy home c (·.name = e.group.name) history d) := by
  obtain ⟨deleted, hns, hname⟩ := (change_afterEvents home c history e).of_workload_gone held gone
  refine ⟨deleted, hns.trans inside, hname, ?_⟩
  rcases origin_of_workload held with first | ⟨-, created⟩
  · exact .inl first
  · rw [hname] at created
    exact .inr created

/-- The workload that the addition of the group `web` of the namespace `team-a` leaves behind. -/
def strayWorkload : Stored Manifest.Workload where
  namespaceName := .str "default"
  name := .str "web"
  uid := "dep-1"
  manifest :=
    { name := .str "web", namespaceName := .str "default", replicas := 1,
      selector := Manifest.podLabels (.str "web"),
      pod := Manifest.pod (Event.sample .added "team-a" "web" 1).group }

/-- A cluster in which somebody else's workload stands where that of the group `web` belongs. -/
def occupied : Cluster :=
  { created := 1, workloads := [strayWorkload] }

/-- The deletion of the group `web` of the operator's namespace removes what that of `team-a` left,
and it removes what stood there before the operator began. -/
theorem strayWorkload_removed_by_deletion :
    (strayWorkload ∈ (empty.afterEvents (.str "default")
        [.sample .added "team-a" "web" 1]).workloads ∧
      strayWorkload ∉ (empty.afterEvents (.str "default")
        ([.sample .added "team-a" "web" 1] ++ [.sample .deleted "default" "web" 1])).workloads ∧
      CreatedBy (.str "default") empty (·.name = .str "web") [.sample .added "team-a" "web" 1]
        strayWorkload) ∧
    strayWorkload ∈ (occupied.afterEvents (.str "default") []).workloads ∧
      strayWorkload ∉ (occupied.afterEvents (.str "default")
        ([] ++ [.sample .deleted "default" "web" 1])).workloads ∧
      strayWorkload ∈ occupied.workloads := by
  have held : strayWorkload ∈ (empty.afterEvents (.str "default")
      [.sample .added "team-a" "web" 1]).workloads := by decide
  have gone : strayWorkload ∉ (empty.afterEvents (.str "default")
      ([.sample .added "team-a" "web" 1] ++ [.sample .deleted "default" "web" 1])).workloads := by
    decide
  have stood : strayWorkload ∈ (occupied.afterEvents (.str "default") []).workloads := by decide
  have fell : strayWorkload ∉ (occupied.afterEvents (.str "default")
      ([] ++ [.sample .deleted "default" "web" 1])).workloads := by decide
  obtain ⟨-, -, -, origin⟩ := removed_by_deletion (.str "default") empty _
    (.sample .deleted "default" "web" 1) strayWorkload rfl held gone
  obtain ⟨-, -, -, origin'⟩ := removed_by_deletion (.str "default") occupied []
    (.sample .deleted "default" "web" 1) strayWorkload rfl stood fell
  refine ⟨⟨held, gone, ?_⟩, stood, fell, ?_⟩
  · rcases origin with first | created
    · cases first
    · exact created
  · rcases origin' with first | ⟨earlier, a, later, split, -⟩
    · exact first
    · cases earlier <;> cases split

/-- A workload can be removed by the deletion of a group although no group of the same namespace and
name ever had it created: it was created for a group of another namespace, or it was there before
and the addition of the group was refused. -/
theorem removal_of_unrelated_workload :
    (strayWorkload ∈ (empty.afterEvents (.str "default")
        [.sample .added "team-a" "web" 1]).workloads ∧
      strayWorkload ∉ (empty.afterEvents (.str "default")
        ([.sample .added "team-a" "web" 1] ++ [.sample .deleted "default" "web" 1])).workloads ∧
      ¬ CreatedBy (.str "default") empty
        (fun g => g.namespaceName = .str "default" ∧ g.name = .str "web")
        [.sample .added "team-a" "web" 1] strayWorkload) ∧
    occupied.afterEvents (.str "default") [.sample .added "default" "web" 1] = occupied ∧
      strayWorkload ∈ (occupied.afterEvents (.str "default")
        [.sample .added "default" "web" 1]).workloads ∧
      strayWorkload ∉ (occupied.afterEvents (.str "default")
        ([.sample .added "default" "web" 1] ++ [.sample .deleted "default" "web" 1])).workloads ∧
      ¬ CreatedBy (.str "default") occupied
        (fun g => g.namespaceName = .str "default" ∧ g.name = .str "web")
        [.sample .added "default" "web" 1] strayWorkload := by
  refine ⟨⟨by decide, by decide, ?_⟩, by decide, by decide, by decide, ?_⟩
  · rintro ⟨earlier, a, later, split, -, -, ⟨hns, -⟩, -⟩
    have ha : a ∈ [Event.sample .added "team-a" "web" 1] := by
      rw [split]
      exact List.mem_append_right _ (List.mem_cons_self ..)
    rw [List.mem_singleton.mp ha] at hns
    exact absurd hns (by decide)
  · rintro ⟨earlier, a, later, split, -, -, -, new, -⟩
    -- nothing comes before the one addition, and then the workload is there already
    cases earlier with
    | nil => exact new (by decide)
    | cons b earlier => cases earlier <;> cases split

/-! ## What a deletion undoes -/

/-- What lies between, being about other names, leaves a workload and its peer file alone. -/
theorem stays_afterEvents (h : Tidy home c) {between : List Event} {d : Stored Manifest.Workload}
    {f : Stored Manifest.PeerFile} (others : ∀ x ∈ between, x.group.name ≠ d.name)
    (held : d ∈ c.workloads) (hf : f ∈ c.peerFiles) (owner : f.owners = [.str d.uid]) :
    d ∈ (c.afterEvents home between).workloads ∧ f ∈ (c.afterEvents home between).peerFiles := by
  induction between using List.reverseRecOn with
  | nil => exact ⟨held, hf⟩
  | append_singleton between x ih =>
    obtain ⟨before, hx⟩ := forall_mem_concat.mp others
    obtain ⟨hd, hfb⟩ := ih before
    have hc := change_afterEvents home c between x
    have stays : d ∈ (c.afterEvents home (between ++ [x])).workloads :=
      Decidable.byContradiction fun gone => hx (hc.of_workload_gone hd gone).2.2.symm
    exact ⟨stays, hc.peerFile_stays (tidy_afterEvents h between) stays hfb owner⟩

/-- The deletion of a group of its name takes a workload and its peer file away exactly if the group
lies where the workload does. -/
theorem gone_iff (h : Tidy home c) {e : Event} (hc : Change home c e c')
    (deleted : e.kind = .deleted) {d : Stored Manifest.Workload} (held : d ∈ c.workloads)
    (name : d.name = e.group.name) {f : Stored Manifest.PeerFile} (hf : f ∈ c.peerFiles)
    (owner : f.owners = [.str d.uid]) :
    (d ∉ c'.workloads ↔ e.group.namespaceName = home) ∧
      (f ∉ c'.peerFiles ↔ e.group.namespaceName = home) := by
  have hns : d.namespaceName = home := h.workload_home d held
  by_cases hhome : e.group.namespaceName = home
  · have gone : d ∉ c'.workloads := by
      cases hc with
      | materialized added valid manifest absent =>
        rw [deleted] at added
        cases added
      | dissolved deleted present =>
        exact fun hd => (mem_workloads_withoutWorkload.mp hd).2 ⟨hns.trans hhome.symm, name⟩
      | kept added absent =>
        exact absurd ⟨hns.trans hhome.symm, name⟩
          (workload?_eq_none_iff.mp (absent deleted) d held)
    exact ⟨iff_of_true gone hhome, iff_of_true (hc.peerFile_gone h held gone owner) hhome⟩
  · have stays : d ∈ c'.workloads := Decidable.byContradiction fun gone =>
      hhome ((hc.of_workload_gone held gone).2.1.symm.trans hns)
    have hfs : f ∈ c'.peerFiles := hc.peerFile_stays h stays hf owner
    exact ⟨iff_of_false (not_not.mpr stays) hhome, iff_of_false (not_not.mpr hfs) hhome⟩

/-- **When a deletion undoes an addition.**  The addition of a group `a` that creates a workload `d`
creates one peer file with it.  After anything that is about other names, the deletion of the group
takes both away exactly if the group lies in the operator's namespace.  Otherwise both stay. -/
theorem deletion_undoes_addition_iff (home : Value) (before between : List Event) (a e : Event)
    (d : Stored Manifest.Workload) (text : ∀ x ∈ before ++ [a], x.group.name.IsText)
    (new : d ∉ (empty.afterEvents home before).workloads)
    (held : d ∈ (empty.afterEvents home (before ++ [a])).workloads)
    (others : ∀ x ∈ between, x.group.name ≠ a.group.name) (deleted : e.kind = .deleted)
    (namespaceName : e.group.namespaceName = a.group.namespaceName)
    (name : e.group.name = a.group.name) :
    ∃ f, (∀ g, g ∈ (empty.afterEvents home (before ++ [a])).peerFiles ∧
          g ∉ (empty.afterEvents home before).peerFiles ↔ g = f) ∧
      f.owners = [.str d.uid] ∧
      (d ∉ (empty.afterEvents home (before ++ a :: between ++ [e])).workloads ↔
        a.group.namespaceName = home) ∧
      (f ∉ (empty.afterEvents home (before ++ a :: between ++ [e])).peerFiles ↔
        a.group.namespaceName = home) := by
  obtain ⟨textBefore, textAdded⟩ := forall_mem_concat.mp text
  have hc := change_afterEvents home empty before a
  have hname : d.name = a.group.name := (hc.of_workload_new new held).2.2.2.1
  obtain ⟨f, hfiles, hfresh, owner⟩ :=
    hc.peerFile_new (complete_afterEvents (complete_empty home) textBefore) textAdded new held
  have hf : f ∈ (empty.afterEvents home (before ++ [a])).peerFiles := by
    rw [hfiles]
    exact List.mem_append_right _ (List.mem_singleton_self f)
  refine ⟨f, fun g => ?_, owner, ?_⟩
  · rw [hfiles, List.mem_append, List.mem_singleton]
    constructor
    · rintro ⟨hg | hg, hnew⟩
      · exact absurd hg hnew
      · exact hg
    · rintro rfl
      exact ⟨.inr rfl, hfresh⟩
  · -- up to the deletion nothing happens to either, as it is all about other names
    have htidy := tidy_afterEvents (tidy_empty home) (before ++ [a])
    obtain ⟨hd, hfb⟩ := stays_afterEvents htidy (hname ▸ others) held hf owner
    rw [← afterEvents_append, List.append_assoc, List.singleton_append] at hd hfb
    have last := gone_iff (tidy_afterEvents (tidy_empty home) _)
      (change_afterEvents home empty (before ++ a :: between) e) deleted hd
      (hname.trans name.symm) hfb owner
    rwa [namespaceName] at last

/-- The group `web` of `team-a` comes and goes, and its workload and its peer file stay; those of
the group `web` of the operator's namespace go. -/
theorem strayWorkload_left_behind :
    (strayWorkload ∈ (empty.afterEvents (.str "default")
        [.sample .added "team-a" "web" 1, .sample .added "default" "db" 1,
          .sample .deleted "team-a" "web" 1]).workloads ∧
      ∃ f ∈ (empty.afterEvents (.str "default")
        [.sample .added "team-a" "web" 1, .sample .added "default" "db" 1,
          .sample .deleted "team-a" "web" 1]).peerFiles, f.owners = [.str strayWorkload.uid]) ∧
    strayWorkload ∈ (empty.afterEvents (.str "default")
      [.sample .added "default" "web" 1]).workloads ∧
    strayWorkload ∉ (empty.afterEvents (.str "default")
      [.sample .added "default" "web" 1, .sample .added "default" "db" 1,
        .sample .deleted "default" "web" 1]).workloads := by
  obtain ⟨f, -, owner, hd, hf⟩ := deletion_undoes_addition_iff (.str "default") []
    [.sample .added "default" "db" 1] (.sample .added "team-a" "web" 1)
    (.sample .deleted "team-a" "web" 1) strayWorkload (by decide) (by decide) (by decide)
    (by decide) rfl rfl rfl
  obtain ⟨g, -, -, hg, -⟩ := deletion_undoes_addition_iff (.str "default") []
    [.sample .added "default" "db" 1] (.sample .added "default" "web" 1)
    (.sample .deleted "default" "web" 1) strayWorkload (by decide) (by decide) (by decide)
    (by decide) rfl rfl rfl
  have abroad : ¬ (Event.sample .added "team-a" "web" 1).group.namespaceName = .str "default" := by
    decide
  refine ⟨⟨not_not.mp (mt hd.mp abroad), f, not_not.mp (mt hf.mp abroad), owner⟩, ?_, hg.mpr rfl⟩
  decide

end GroupOperator.Cluster
