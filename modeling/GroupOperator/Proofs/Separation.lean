import GroupOperator.Proofs.Healing

/-!
# Which groups are kept apart

A watch tells groups apart by namespace and name.  What is made for a group depends on less:
workload and peer file lie in the operator's namespace, wherever the group lies, and both are named
for the group's name, which is also what its pods are labelled with.

* Groups of different names share nothing: not the place of a workload, not that of a peer file, and
  no workload takes the pods of the other for its own.
* Groups of one name share all of it, so namesakes in two namespaces stand for one workload
  (`Manifest.namesakes_share`).

`Manifest.apart_iff_names_differ` says both.  In a cluster that only the operator works in a place
is taken once, so there no workload takes the pods of another (`Cluster.pods_apart_afterEvents`).
-/

namespace GroupOperator

namespace Manifest

/-! ## Places and pods -/

/-- Where a workload is to stand: its namespace and its name. -/
def Workload.place (w : Workload) : Value × Value :=
  (w.namespaceName, w.name)

/-- Where a peer file is to stand: its namespace and its name. -/
def PeerFile.place (f : PeerFile) : Value × Value :=
  (f.namespaceName, .str f.name)

/-- A workload takes a pod for its own if the pod carries every label of the workload's selector. -/
def Workload.Selects (w : Workload) (p : Pod) : Prop :=
  ∀ label ∈ w.selector, p.labels.lookup label.1 = some label.2

instance (w : Workload) (p : Pod) : Decidable (w.Selects p) :=
  inferInstanceAs (Decidable (∀ label ∈ w.selector, p.labels.lookup label.1 = some label.2))

/-- What two groups have in common once they are materialized: a place for workloads, a place for
peer files, and the pods, as seen from either side. -/
structure Share (v w : Workload) (e f : PeerFile) : Prop where
  /-- The workloads are to stand in one place. -/
  workloads : v.place = w.place
  /-- So are the peer files. -/
  peerFiles : e.place = f.place
  /-- The first workload takes the pods of the second for its own. -/
  pods : v.Selects w.pod
  /-- And the second takes those of the first. -/
  podsBack : w.Selects v.pod

/-- Two groups have nothing in common. -/
structure Apart (v w : Workload) (e f : PeerFile) : Prop where
  /-- The workloads are to stand in two places. -/
  workloads : v.place ≠ w.place
  /-- So are the peer files. -/
  peerFiles : e.place ≠ f.place
  /-- The first workload leaves the pods of the second alone. -/
  pods : ¬ v.Selects w.pod
  /-- And the second leaves those of the first alone. -/
  podsBack : ¬ w.Selects v.pod

/-! ## What a manifest says of its group -/

variable {g h : ServiceGroup} {home : Value} {v w : Workload}

/-- A workload stands in the operator's namespace under the name of its group, and knows its pods by
the labels for that name. -/
theorem parts_of_workload? (made : workload? g home = .ok w) :
    w.place = (home, g.name) ∧ w.selector = podLabels g.name ∧ w.pod.labels = podLabels g.name := by
  rw [eq_of_workload? made]
  exact ⟨rfl, rfl, rfl⟩

theorem place_peerFile (g : ServiceGroup) (home : Value) (owners : List Owner) :
    (peerFile g home owners).place = (home, .str (peerFileName g.name)) := rfl

/-- The labels for one name are all carried by a pod that is labelled for another just if the names
are the same. -/
theorem podLabels_within_iff {m n : Value} :
    (∀ label ∈ podLabels m, (podLabels n).lookup label.1 = some label.2) ↔ m = n := by
  constructor
  · intro within
    have named := within (Schema.groupLabel, m) (List.mem_cons_of_mem _ (List.mem_singleton_self _))
    exact (Option.some.inj named).symm
  · rintro rfl label mem
    rcases List.mem_cons.mp mem with rfl | mem
    · rfl
    · obtain rfl := List.mem_singleton.mp mem
      rfl

theorem place_eq_iff (hv : workload? g home = .ok v) (hw : workload? h home = .ok w) :
    v.place = w.place ↔ g.name = h.name := by
  obtain ⟨placeV, -, -⟩ := parts_of_workload? hv
  obtain ⟨placeW, -, -⟩ := parts_of_workload? hw
  rw [placeV, placeW, Prod.mk.injEq]
  exact and_iff_right rfl

theorem selects_iff (hv : workload? g home = .ok v) (hw : workload? h home = .ok w) :
    v.Selects w.pod ↔ g.name = h.name := by
  obtain ⟨-, selector, -⟩ := parts_of_workload? hv
  obtain ⟨-, -, labels⟩ := parts_of_workload? hw
  rw [Workload.Selects, selector, labels]
  exact podLabels_within_iff

theorem place_peerFile_eq_iff (hg : g.name.IsText) (hh : h.name.IsText)
    (owners others : List Owner) :
    (peerFile g home owners).place = (peerFile h home others).place ↔ g.name = h.name := by
  rw [place_peerFile, place_peerFile, Prod.mk.injEq]
  constructor
  · rintro ⟨-, same⟩
    exact peerFileName_injective hg hh (Value.str.inj same)
  · intro same
    rw [same]
    exact ⟨rfl, rfl⟩

/-- Groups of different names have nothing in common. -/
theorem apart_iff (hv : workload? g home = .ok v) (hw : workload? h home = .ok w)
    (hg : g.name.IsText) (hh : h.name.IsText) (owners others : List Owner) :
    Apart v w (peerFile g home owners) (peerFile h home others) ↔ g.name ≠ h.name := by
  constructor
  · intro apart same
    exact apart.workloads ((place_eq_iff hv hw).mpr same)
  · intro differ
    exact {
      workloads := mt (place_eq_iff hv hw).mp differ
      peerFiles := mt (place_peerFile_eq_iff hg hh owners others).mp differ
      pods := mt (selects_iff hv hw).mp differ
      podsBack := mt (selects_iff hw hv).mp differ.symm }

/-- Groups of one name have everything in common. -/
theorem share_iff (hv : workload? g home = .ok v) (hw : workload? h home = .ok w)
    (hg : g.name.IsText) (hh : h.name.IsText) (owners others : List Owner) :
    Share v w (peerFile g home owners) (peerFile h home others) ↔ g.name = h.name := by
  constructor
  · intro share
    exact (place_eq_iff hv hw).mp share.workloads
  · intro same
    exact {
      workloads := (place_eq_iff hv hw).mpr same
      peerFiles := (place_peerFile_eq_iff hg hh owners others).mpr same
      pods := (selects_iff hv hw).mpr same
      podsBack := (selects_iff hw hv).mpr same.symm }

/-- **Which groups are kept apart.**  Two valid groups whose names are texts have workloads, in
whatever namespace the operator works.  If their names differ they have nothing in common; if their
names are the same they have everything in common, whatever their own namespaces. -/
theorem apart_iff_names_differ (home : Value) {g h : ServiceGroup} (validG : g.IsValid)
    (validH : h.IsValid) (textG : g.name.IsText) (textH : h.name.IsText) :
    ∃ v w, workload? g home = .ok v ∧ workload? h home = .ok w ∧ ∀ owners others,
      (Apart v w (peerFile g home owners) (peerFile h home others) ↔ g.name ≠ h.name) ∧
      (Share v w (peerFile g home owners) (peerFile h home others) ↔ g.name = h.name) := by
  obtain ⟨v, hv⟩ := workload?_of_isValid validG home
  obtain ⟨w, hw⟩ := workload?_of_isValid validH home
  refine ⟨v, w, hv, hw, fun owners others => ⟨?_, ?_⟩⟩
  · exact apart_iff hv hw textG textH owners others
  · exact share_iff hv hw textG textH owners others

/-- A group called as the peer file of another is kept apart from it. -/
theorem peerFile_namesake_apart :
    let g := (Event.sample .added "default" "web" 1).group
    let h := (Event.sample .added "default" "web-peer-file" 1).group
    g.IsValid ∧ h.IsValid ∧ g.name.IsText ∧ h.name.IsText ∧ h.name = .str (peerFileName g.name) ∧
      ∃ v w, workload? g (.str "default") = .ok v ∧ workload? h (.str "default") = .ok w ∧
        Apart v w (peerFile g (.str "default") []) (peerFile h (.str "default") []) := by
  intro g h
  have validG : g.IsValid := by decide
  have validH : h.IsValid := by decide
  have textG : g.name.IsText := ⟨"web", rfl⟩
  have textH : h.name.IsText := ⟨"web-peer-file", rfl⟩
  obtain ⟨v, w, hv, hw, made⟩ :=
    apart_iff_names_differ (.str "default") validG validH textG textH
  obtain ⟨apart, -⟩ := made [] []
  exact ⟨validG, validH, textG, textH, by decide, v, w, hv, hw, apart.mpr (by decide)⟩

/-- Two groups that a watch keeps as two can have everything in common. -/
theorem namesakes_share :
    let g := (Event.sample .added "team-a" "web" 1).group
    let h := (Event.sample .added "team-b" "web" 2).group
    g.IsValid ∧ h.IsValid ∧ g.name.IsText ∧ h.name.IsText ∧
      (Key.ofGroup g).same (Key.ofGroup h) = false ∧
      ∃ v w, workload? g (.str "default") = .ok v ∧ workload? h (.str "default") = .ok w ∧
        ∀ owners others,
          Share v w (peerFile g (.str "default") owners) (peerFile h (.str "default") others) ∧
          ¬ Apart v w (peerFile g (.str "default") owners)
            (peerFile h (.str "default") others) := by
  intro g h
  have validG : g.IsValid := by decide
  have validH : h.IsValid := by decide
  have textG : g.name.IsText := ⟨"web", rfl⟩
  have textH : h.name.IsText := ⟨"web", rfl⟩
  obtain ⟨v, hv⟩ := workload?_of_isValid validG (.str "default")
  obtain ⟨w, hw⟩ := workload?_of_isValid validH (.str "default")
  refine ⟨validG, validH, textG, textH, by decide, v, w, hv, hw, fun owners others => ⟨?_, ?_⟩⟩
  · exact (share_iff hv hw textG textH owners others).mpr rfl
  · intro apart
    exact (apart_iff hv hw textG textH owners others).mp apart rfl

end Manifest

/-! ## In a cluster

Namesakes have one place between them, and the first of them takes it.  So what they would share is
never there twice. -/

namespace Cluster

variable {home : Value} {d e : Stored Manifest.Workload} {history : List Event}

/-- A workload that only the operator can have created is that of a group of its name. -/
theorem manifest_afterEvents (held : d ∈ (empty.afterEvents home history).workloads) :
    ∃ g, Manifest.workload? g home = .ok d.manifest ∧ g.name = d.name := by
  induction history using List.reverseRecOn with
  | nil => cases held
  | append_singleton history e ih =>
    by_cases before : d ∈ (empty.afterEvents home history).workloads
    · exact ih before
    · obtain ⟨asks, -, -, manifest⟩ :=
        (change_afterEvents home empty history e).of_workload_created before held
      obtain ⟨-, name, -⟩ := Event.asksFor_iff.mp asks
      exact ⟨e.group, manifest, name⟩

/-- Where only the operator works, no workload takes the pods of another for its own. -/
theorem pods_apart_afterEvents (hd : d ∈ (empty.afterEvents home history).workloads)
    (he : e ∈ (empty.afterEvents home history).workloads) (differ : d ≠ e) :
    ¬ d.manifest.Selects e.manifest.pod := by
  have tidy := tidy_afterEvents (tidy_empty home) history
  obtain ⟨g, made, nameG⟩ := manifest_afterEvents hd
  obtain ⟨h, makes, nameH⟩ := manifest_afterEvents he
  intro selects
  apply differ
  apply tidy.workload_eq_of_name hd he
  rw [← nameG, ← nameH]
  exact (Manifest.selects_iff made makes).mp selects

end Cluster

end GroupOperator
