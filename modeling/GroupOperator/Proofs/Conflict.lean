import GroupOperator.Proofs.Faults

/-!
# What a conflict says

A valid group whose workload exists already is passed over, as every redelivery of a materialized
group meets its workload.  But a workload and its peer file are created by two requests, and the
second can fail on its own.  Then the workload stands without a peer file, its group is passed over
from then on, and the peer file is missing for as long as the workload stands.

Beginning with nothing, every workload that stands was *founded* in the run: its creation was
granted, and the very next request was for its peer file (`StagedCluster.Founds`).  It has a peer
file exactly if that second request was left to the cluster (`StagedCluster.Accounted`).  Each event
keeps this, by one of four turns (`StagedCluster.Turn`), so it is known of whatever workload is met
in a conflict.
-/

namespace GroupOperator

namespace StagedCluster

open Cluster

variable {home : Value} {s : StagedCluster} {c c' : Cluster}
variable {past made : List (Exchange StagedCluster)}

/-! ## One event -/

/-- What an event does to a cluster whose requests may fail, and by which requests. -/
inductive Turn (home : Value) (c : Cluster) : List (Exchange StagedCluster) → Cluster → Prop where
  /-- Nothing is done. -/
  | kept {made : List (Exchange StagedCluster)} : Turn home c made c
  /-- A workload is created, but its peer file fails. -/
  | halfway {w : Manifest.Workload} {f : Manifest.PeerFile} {s t : StagedCluster}
      (granted : (StagedCluster.answer (.createWorkload home w) s).1 =
        .ok ⟨w.name, home, .str c.nextWorkloadUid⟩)
      (owner : f.owners.map (·.uid) = [.str c.nextWorkloadUid])
      (failed : ¬ (Exchange.mk (.createPeerFile home f) t).IsGenuine) :
      Turn home c [⟨.createWorkload home w, s⟩, ⟨.createPeerFile home f, t⟩]
        (c.withWorkload home w)
  /-- A workload is created, and its peer file with it. -/
  | whole {w : Manifest.Workload} {f : Manifest.PeerFile} {s t : StagedCluster}
      (granted : (StagedCluster.answer (.createWorkload home w) s).1 =
        .ok ⟨w.name, home, .str c.nextWorkloadUid⟩)
      (owner : f.owners.map (·.uid) = [.str c.nextWorkloadUid])
      (genuine : (Exchange.mk (.createPeerFile home f) t).IsGenuine) :
      Turn home c [⟨.createWorkload home w, s⟩, ⟨.createPeerFile home f, t⟩]
        ((c.withWorkload home w).withPeerFile home f)
  /-- A workload goes, and what it owns goes with it. -/
  | gone {made : List (Exchange StagedCluster)} {namespaceName name : Value}
      {o : Stored Manifest.Workload} (present : c.workload? namespaceName name = some o) :
      Turn home c made (c.withoutWorkload namespaceName name o.uid)

/-- A granted creation is of a workload that did not stand. -/
theorem OnlyErrors.of_created (h : s.OnlyErrors) {w : Manifest.Workload} {m : Metadata}
    (created : (StagedCluster.answer (.createWorkload home w) s).1 = .ok m) :
    m = ⟨w.name, home, .str s.cluster.nextWorkloadUid⟩ ∧
      (StagedCluster.answer (.createWorkload home w) s).2.cluster =
        s.cluster.withWorkload home w := by
  obtain ⟨reply, state⟩ := answer_of_unprepared (h.genuine_of_ok created)
  rw [reply, Cluster.answer] at created
  rw [state, Cluster.answer]
  cases hw : s.cluster.workload? home w.name with
  | some v =>
    rw [createWorkload_of_some hw] at created
    cases created
  | none =>
    rw [createWorkload_of_none hw] at created ⊢
    exact ⟨(Except.ok.inj created).symm, rfl⟩

/-- A creation that fails leaves the objects alone. -/
theorem cluster_of_uncreated {w : Manifest.Workload} {f : Failure}
    (failed : (StagedCluster.answer (.createWorkload home w) s).1 = .error f) :
    (StagedCluster.answer (.createWorkload home w) s).2.cluster = s.cluster := by
  cases hd : (s.draw (.createWorkload home w)).1 with
  | some reply => exact cluster_of_prepared hd
  | none =>
    obtain ⟨reply, state⟩ := answer_of_unprepared hd
    rw [reply, Cluster.answer] at failed
    rw [state, Cluster.answer]
    cases hw : s.cluster.workload? home w.name with
    | some v => rw [createWorkload_of_some hw]
    | none =>
      rw [createWorkload_of_none hw] at failed
      cases failed

/-- A peer file is asked for right after its workload was granted: it is created if the cluster
itself answers, else the workload stays alone. -/
theorem turn_of_peerFile {w : Manifest.Workload} {f : Manifest.PeerFile} {s t : StagedCluster}
    (granted : (StagedCluster.answer (.createWorkload home w) s).1 =
      .ok ⟨w.name, home, .str c.nextWorkloadUid⟩)
    (owner : f.owners.map (·.uid) = [.str c.nextWorkloadUid])
    (state : t.cluster = c.withWorkload home w)
    (absent : t.cluster.peerFile? home (.str f.name) = none) :
    Turn home c [⟨.createWorkload home w, s⟩, ⟨.createPeerFile home f, t⟩]
      (StagedCluster.answer (.createPeerFile home f) t).2.cluster := by
  by_cases genuine : (Exchange.mk (.createPeerFile home f) t).IsGenuine
  · rw [(answer_of_unprepared genuine).2, Cluster.answer, createPeerFile_of_none absent, state]
    exact .whole granted owner genuine
  · obtain ⟨reply, drawn⟩ := Option.ne_none_iff_exists'.mp genuine
    rw [cluster_of_prepared drawn, state]
    exact .halfway granted owner genuine

/-- The deletion of a workload takes it away if it is there and the request does not fail. -/
theorem OnlyErrors.turn_of_deletion (h : s.OnlyErrors) (name namespaceName : Value)
    (made : List (Exchange StagedCluster)) :
    Turn home s.cluster made (StagedCluster.answer (.deleteWorkload name namespaceName
      (.str Schema.backgroundPropagation)) s).2.cluster := by
  rcases h.reply (.deleteWorkload name namespaceName (.str Schema.backgroundPropagation)) with
    ⟨-, state⟩ | ⟨-, state⟩
  · exact state.symm ▸ .kept
  · rw [state, Cluster.answer]
    cases hw : s.cluster.workload? namespaceName name with
    | none =>
      rw [deleteWorkload_of_none hw]
      exact .kept
    | some o =>
      rw [deleteWorkload_of_some hw]
      exact .gone hw

/-- Every event takes one of the four turns. -/
theorem Guarded.turn (h : Guarded home Value.IsText s) {e : Event} (text : e.group.name.IsText) :
    Turn home s.cluster ((Reconciler.handle home e).exchanges StagedCluster.answer s)
      ((Reconciler.handle home e).run StagedCluster.answer s).state.cluster := by
  have requests := fun x hx => h.of_mem_exchanges text (x := x) hx
  rw [Activity.state_run_eq]
  obtain ⟨made, levels, hmade, course⟩ := Reconciler.exists_course StagedCluster.answer home e s
  rw [hmade] at requests ⊢
  cases course with
  | rejected added invalid => exact .kept
  | uncreated added valid manifest failed =>
    exact (cluster_of_uncreated failed).symm ▸ .kept
  | @unowned w m f added valid manifest created nobody =>
    -- the cluster itself granted it, so there is a name to refer to
    obtain ⟨rfl, -⟩ := h.errors.of_created created
    rw [owner?_identityOf (Manifest.name_ne_null valid manifest)] at nobody
    cases nobody
  | @owned w m o added valid manifest created owner =>
    obtain ⟨rfl, state⟩ := h.errors.of_created created
    rw [owner?_identityOf (Manifest.name_ne_null valid manifest)] at owner
    obtain rfl := Except.ok.inj owner
    obtain ⟨before, proper⟩ := requests _ (List.mem_cons_of_mem _ (List.mem_singleton_self _))
    exact turn_of_peerFile created rfl state
      (before.tidy.peerFile?_eq_none_of_proper before.names proper)
  | modified modified => exact .kept
  | deleted deleted => exact h.errors.turn_of_deletion ..

/-! ## How workloads came to be -/

/-- The two requests by which a workload came to be: its creation, which was granted, and then that
of the peer file that it was to own. -/
def Founds (home : Value) (d : Stored Manifest.Workload) (first second : Exchange StagedCluster) :
    Prop :=
  (∃ s, first = ⟨.createWorkload home d.manifest, s⟩ ∧
    (StagedCluster.answer (.createWorkload home d.manifest) s).1 =
      .ok ⟨d.name, home, .str d.uid⟩) ∧
  ∃ f, second.request = .createPeerFile home f ∧ f.owners.map (·.uid) = [.str d.uid]

/-- Past requests account for a workload: it was founded by two of them, one right after the other,
and it owns a peer file exactly if the second was left to the cluster. -/
def Accounted (home : Value) (past : List (Exchange StagedCluster)) (c : Cluster)
    (d : Stored Manifest.Workload) : Prop :=
  ∃ earlier first second later, past = earlier ++ first :: second :: later ∧
    Founds home d first second ∧
    (second.IsGenuine ↔ ∃ f ∈ c.peerFiles, f.owners = [.str d.uid])

/-- More requests account for a workload as well, as long as it owns what it owned. -/
theorem Accounted.append {d : Stored Manifest.Workload} (h : Accounted home past c d)
    (owned : (∃ f ∈ c.peerFiles, f.owners = [.str d.uid]) ↔
      ∃ f ∈ c'.peerFiles, f.owners = [.str d.uid])
    (made : List (Exchange StagedCluster)) : Accounted home (past ++ made) c' d := by
  obtain ⟨earlier, first, second, later, rfl, founds, genuine⟩ := h
  exact ⟨earlier, first, second, later ++ made, by simp, founds, genuine.trans owned⟩

/-- A turn keeps all workloads accounted for. -/
theorem Turn.accounted (turn : Turn home c made c') (tidy : Tidy home c)
    (h : ∀ d ∈ c.workloads, Accounted home past c d) :
    ∀ d ∈ c'.workloads, Accounted home (past ++ made) c' d := by
  cases turn with
  | kept => exact fun d hd => (h d hd).append Iff.rfl made
  | @halfway w f s t granted owner failed =>
    refine forall_mem_concat.mpr ⟨fun d hd => (h d hd).append Iff.rfl _, ?_⟩
    refine ⟨past, _, _, [], rfl, ⟨⟨s, rfl, granted⟩, f, rfl, owner⟩, iff_of_false failed ?_⟩
    rintro ⟨g, hg, hown⟩
    exact tidy.owners_ne_next hg hown
  | @whole w f s t granted owner genuine =>
    refine forall_mem_concat.mpr ⟨fun d hd => (h d hd).append ?_ _, ?_⟩
    · -- the new peer file belongs to the new workload
      constructor
      · rintro ⟨g, hg, hown⟩
        exact ⟨g, List.mem_append_left _ hg, hown⟩
      · rintro ⟨g, hg, hown⟩
        rcases List.mem_append.mp hg with hg | hg
        · exact ⟨g, hg, hown⟩
        · obtain rfl := List.mem_singleton.mp hg
          exact absurd (owner_injective (hown.symm.trans owner))
            (tidy.workload_issued d hd).ne_next
    · exact ⟨past, _, _, [], rfl, ⟨⟨s, rfl, granted⟩, f, rfl, owner⟩,
        iff_of_true genuine ⟨_, List.mem_append_right _ (List.mem_singleton_self _), owner⟩⟩
  | @gone made namespaceName name o present =>
    intro d hd
    refine (h d (mem_workloads_withoutWorkload.mp hd).1).append ?_ _
    constructor
    · rintro ⟨g, hg, hown⟩
      exact ⟨g, tidy.peerFile_stays present hd hg hown, hown⟩
    · rintro ⟨g, hg, hown⟩
      exact ⟨g, (mem_peerFiles_withoutWorkload.mp hg).1, hown⟩

/-! ## A whole history -/

/-- The creation of a workload is the first request of its event. -/
theorem first_of_creation {e : Event} {before after : List (Exchange StagedCluster)}
    {x : Exchange StagedCluster} {n : Value} {w : Manifest.Workload}
    (made : (Reconciler.handle home e).exchanges StagedCluster.answer s = before ++ x :: after)
    (creates : x.request = .createWorkload n w) : before = [] ∧ x.before = s := by
  have course := Reconciler.course_handle StagedCluster.answer home e s
  rw [made] at course
  cases before with
  | nil => exact ⟨rfl, course.of_cons.1⟩
  | cons first rest =>
    obtain ⟨f, hf⟩ := course.of_cons.2 x (List.mem_append_right _ (List.mem_cons_self ..))
    rw [hf] at creates
    cases creates

/-- Whenever a workload is asked for, past requests account for all that stand. -/
theorem Guarded.accounted_before (h : Guarded home Value.IsText s) {history : List Event}
    (text : ∀ e ∈ history, e.group.name.IsText)
    (start : ∀ d ∈ s.cluster.workloads, Accounted home past s.cluster d)
    {before after : List (Exchange StagedCluster)} {x : Exchange StagedCluster} {n : Value}
    {w : Manifest.Workload}
    (made : (Reconciler.handleAll home history).exchanges StagedCluster.answer s =
      before ++ x :: after)
    (creates : x.request = .createWorkload n w) :
    ∀ d ∈ x.before.cluster.workloads, Accounted home (past ++ before) x.before.cluster d := by
  induction history generalizing s past before with
  | nil => cases (List.append_eq_nil_iff.mp made.symm).2
  | cons e rest ih =>
    obtain ⟨he, hrest⟩ := List.forall_mem_cons.mp text
    have next := (h.turn he).accounted h.tidy start
    rw [Reconciler.exchanges_handleAll_cons] at made
    -- the request is one of this event's or one of those that follow
    rcases List.append_eq_append_iff.mp made with ⟨more, rfl, later⟩ | ⟨more, block, later⟩
    · rw [← List.append_assoc]
      exact ih (h.handle he) hrest next later
    · cases more with
      | nil =>
        rw [List.append_nil] at block
        have first := ih (h.handle he) hrest next
          (later.symm.trans (List.nil_append (x :: after)).symm)
        rw [List.append_nil, block] at first
        exact first
      | cons y others =>
        obtain ⟨rfl, -⟩ := List.cons.inj later
        obtain ⟨rfl, rfl⟩ := first_of_creation block creates
        exact (List.append_nil past).symm ▸ start

/-- **What exists already is materialized, unless its second request failed.**  Beginning with
nothing, say that groups with texts for names are handled, that requests may fail but never succeed
without effect, and that the cluster itself refuses the creation of a workload because there is one.
Then the one that is there was created in the run, the very next request was for its peer file, and
if that request was left to the cluster the peer file is there and owned by it.  If that request
failed there is no peer file of that name. -/
theorem materialized_of_conflict (home : Value) (s : StagedCluster) (history : List Event)
    (empty : s.cluster = Cluster.empty) (errors : s.OnlyErrors)
    (text : ∀ e ∈ history, e.group.name.IsText)
    {before after : List (Exchange StagedCluster)} {x : Exchange StagedCluster} {n : Value}
    {w : Manifest.Workload}
    (made : (Reconciler.handleAll home history).exchanges StagedCluster.answer s =
      before ++ x :: after)
    (creates : x.request = .createWorkload n w)
    (conflict : (x.before.cluster.createWorkload n w).1 = .error Cluster.conflict) :
    ∃ d earlier first second later,
      x.before.cluster.workload? home w.name = some d ∧
      before = earlier ++ first :: second :: later ∧ Founds home d first second ∧
      (second.IsGenuine →
        ∃ f, x.before.cluster.peerFile? home (.str (Manifest.peerFileName w.name)) = some f ∧
          f.owners = [.str d.uid]) ∧
      (¬ second.IsGenuine →
        x.before.cluster.peerFile? home (.str (Manifest.peerFileName w.name)) = none) := by
  have start : Guarded home Value.IsText s := guarded_of_empty empty errors
  have mem : x ∈ (Reconciler.handleAll home history).exchanges StagedCluster.answer s :=
    made ▸ List.mem_append_right _ (List.mem_cons_self ..)
  obtain ⟨guarded, proper⟩ := start.of_mem_exchanges_handleAll text mem
  rw [creates] at proper
  obtain ⟨-⟩ := proper
  cases hw : x.before.cluster.workload? home w.name with
  | none =>
    rw [createWorkload_of_none hw] at conflict
    cases conflict
  | some d =>
    obtain ⟨hd, -, hname⟩ := of_workload?_eq_some hw
    have none_yet : ∀ d ∈ s.cluster.workloads, Accounted home [] s.cluster d := by
      simp [empty, Cluster.empty]
    obtain ⟨earlier, first, second, later, rfl, founds, owned⟩ :=
      start.accounted_before text none_yet made creates d hd
    have shown (f : Stored Manifest.PeerFile) :
        x.before.cluster.peerFile? home (.str (Manifest.peerFileName w.name)) = some f ↔
          f ∈ x.before.cluster.peerFiles ∧ f.owners = [.str d.uid] := by
      rw [← hname]
      exact guarded.tidy.peerFile?_eq_some_iff guarded.names hd
    refine ⟨d, earlier, first, second, later, rfl, rfl, founds, fun left => ?_, fun failed => ?_⟩
    · obtain ⟨f, hf, hown⟩ := owned.mp left
      exact ⟨f, (shown f).mpr ⟨hf, hown⟩, hown⟩
    · cases hf : x.before.cluster.peerFile? home (.str (Manifest.peerFileName w.name)) with
      | none => rfl
      | some f => exact absurd (owned.mpr ⟨f, (shown f).mp hf⟩) failed

/-- The first peer file cannot be created, because the transport fails. -/
def halfwayStage : StagedCluster where
  peerFileReplies := [some (.error (.transport "connection reset"))]

/-- A group is added, redelivered, deleted, added once more and redelivered again. -/
def halfwayHistory : List Event :=
  [.sample .added "default" "web" 1, .sample .added "default" "web" 1,
    .sample .deleted "default" "web" 1, .sample .added "default" "web" 1,
    .sample .added "default" "web" 1]

/-- The requests that are made for it. -/
def halfwayRequests : List (Exchange StagedCluster) :=
  (Reconciler.handleAll (.str "default") halfwayHistory).exchanges StagedCluster.answer halfwayStage

/-- The first redelivery meets the workload that was created, and there is no peer file. -/
theorem conflict_without_peerFile :
    halfwayStage.cluster = Cluster.empty ∧ halfwayStage.OnlyErrors ∧
      (∀ reply ∈ halfwayStage.peerFileReplies,
        ∃ f, reply = some (.error f) ∧ f.isTransport = true) ∧
      (∀ e ∈ halfwayHistory, e.group.name.IsText ∧ e.group.namespaceName = .str "default") ∧
      ∃ x ∈ halfwayRequests, ∃ w, x.request = .createWorkload (.str "default") w ∧ x.IsGenuine ∧
        (x.before.cluster.createWorkload (.str "default") w).1 = .error Cluster.conflict ∧
        x.before.cluster.peerFile? (.str "default") (.str (Manifest.peerFileName w.name)) =
          none := by
  refine ⟨rfl, ?_, ?_, by decide, halfwayRequests[2], List.getElem_mem _, _, rfl, ?_⟩
  · constructor <;> simp [halfwayStage]
  · simp [halfwayStage, Failure.isTransport]
  · decide

/-- The second redelivery meets a workload that was founded after the first had gone, and its peer
file with it. -/
theorem halfwayHistory_materialized :
    halfwayStage.OnlyErrors ∧ (∀ e ∈ halfwayHistory, e.group.name.IsText) ∧
      ∃ w d earlier first second later,
        halfwayRequests[6].request = .createWorkload (.str "default") w ∧
        (halfwayRequests[6].before.cluster.createWorkload (.str "default") w).1 =
          .error Cluster.conflict ∧
        halfwayRequests.take 6 = earlier ++ first :: second :: later ∧
        Founds (.str "default") d first second ∧
        (second.IsGenuine → ∃ f, halfwayRequests[6].before.cluster.peerFile? (.str "default")
          (.str (Manifest.peerFileName w.name)) = some f ∧ f.owners = [.str d.uid]) ∧
        (halfwayRequests[6].before.cluster.peerFile? (.str "default")
          (.str "web-peer-file")).map (·.owners) = some [.str "dep-2"] := by
  have errors : halfwayStage.OnlyErrors := by
    constructor <;> simp [halfwayStage]
  have text : ∀ e ∈ halfwayHistory, e.group.name.IsText := by decide
  have made : halfwayRequests =
      halfwayRequests.take 6 ++ halfwayRequests[6] :: halfwayRequests.drop 7 := by
    rw [← List.drop_eq_getElem_cons, List.take_append_drop]
  obtain ⟨w, creates, conflict⟩ :
      ∃ w, halfwayRequests[6].request = .createWorkload (.str "default") w ∧
        (halfwayRequests[6].before.cluster.createWorkload (.str "default") w).1 =
          .error Cluster.conflict := ⟨_, rfl, by decide⟩
  obtain ⟨d, earlier, first, second, later, -, split, founds, owned, -⟩ :=
    materialized_of_conflict (.str "default") halfwayStage halfwayHistory rfl errors text made
      creates conflict
  exact ⟨errors, text, w, d, earlier, first, second, later, creates, conflict, split, founds, owned,
    by decide⟩

end StagedCluster

end GroupOperator
