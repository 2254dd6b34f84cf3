import GroupOperator.Proofs.Faults
import GroupOperator.Proofs.Materialization
import GroupOperator.Proofs.Replay

/-!
# What a redelivery heals

A creation that fails is not tried again, and a modification creates nothing.  What puts this right
is the next redelivery: it hands over every remembered group as if it had just been added.  If the
cluster itself answers all its requests, then afterwards

* every remembered group that is valid has a workload of its name;
* a workload that was not there before is that of the first valid group of its name in the store, as
  that group was when it was delivered last.

Whatever happened before does not matter, neither to the cluster nor to the groups.  The reason is
in two facts.  A history of additions never takes a workload away and leaves one for each valid
group (`Cluster.held_afterEvents`), so the first to ask for a name creates what is new
(`Cluster.first_of_workload_new`).  And what a watch remembers under a key is the object of the last
event about it (`Store.Mirrors.lastAbout_of_mem`).
-/

namespace GroupOperator

/-! ## Additions only -/

namespace Cluster

variable {home name namespaceName : Value} {c c' : Cluster} {e : Event}
variable {d : Stored Manifest.Workload}

namespace Change

/-- An addition takes no workload away. -/
theorem held_of_added (hc : Change home c e c') (added : e.kind = .added)
    (held : (c.workload? namespaceName name).isSome = true) :
    (c'.workload? namespaceName name).isSome = true := by
  cases hc with
  | materialized _ valid manifest absent =>
    rw [workload?_createPeerFile, workload?_withWorkload, Option.isSome_or, held, Bool.true_or]
  | dissolved deleted present =>
    rw [added] at deleted
    cases deleted
  | kept _ _ => exact held

/-- After a workload was asked for, one is held. -/
theorem held_of_asksFor (hc : Change home c e c') (asks : e.asksFor name = true) :
    (c'.workload? home name).isSome = true := by
  obtain ⟨added, rfl, valid⟩ := Event.asksFor_iff.mp asks
  cases hc with
  | materialized _ _ manifest absent =>
    rw [workload?_createPeerFile, workload?_withWorkload,
      if_pos ⟨rfl, Manifest.name_of_workload? manifest⟩, Option.isSome_or, Option.isSome_some,
      Bool.or_true]
  | dissolved deleted present =>
    rw [added] at deleted
    cases deleted
  | kept held _ => exact Option.isSome_iff_ne_none.mpr (held added valid)

/-- A new workload is that of a valid group that was added where none of its name stood. -/
theorem of_workload_created (hc : Change home c e c') (new : d ∉ c.workloads)
    (held : d ∈ c'.workloads) :
    e.asksFor d.name = true ∧ c.workload? home d.name = none ∧ d.namespaceName = home ∧
      Manifest.workload? e.group home = .ok d.manifest := by
  cases hc with
  | materialized added valid manifest absent =>
    have hname := Manifest.name_of_workload? manifest
    rw [workloads_createPeerFile] at held
    rcases List.mem_append.mp held with hd | hd
    · exact absurd hd new
    · obtain rfl := List.mem_singleton.mp hd
      exact ⟨Event.asksFor_iff.mpr ⟨added, hname.symm, valid⟩, hname ▸ absent, rfl, manifest⟩
  | dissolved deleted present => exact absurd (mem_workloads_withoutWorkload.mp held).1 new
  | kept _ _ => exact absurd held new

end Change

/-- After a history of additions, workloads are held under all the names that were asked for. -/
theorem held_afterEvents {history : List Event} (added : ∀ e ∈ history, e.kind = .added)
    (asked : ∃ e ∈ history, e.asksFor name = true) :
    ((c.afterEvents home history).workload? home name).isSome = true := by
  induction history using List.reverseRecOn with
  | nil => simp at asked
  | append_singleton history e ih =>
    obtain ⟨hadded, he⟩ := forall_mem_concat.mp added
    have hc := change_afterEvents home c history e
    obtain ⟨e', hmem, asks⟩ := asked
    rcases List.mem_append.mp hmem with earlier | last
    · exact hc.held_of_added he (ih hadded ⟨e', earlier, asks⟩)
    · obtain rfl := List.mem_singleton.mp last
      exact hc.held_of_asksFor asks

/-- What is new after a history of additions was created for the first that asked for its name. -/
theorem first_of_workload_new {history : List Event} (added : ∀ e ∈ history, e.kind = .added)
    (new : d ∉ c.workloads) (held : d ∈ (c.afterEvents home history).workloads) :
    d.namespaceName = home ∧ ∃ e, history.find? (·.asksFor d.name) = some e ∧
      Manifest.workload? e.group home = .ok d.manifest := by
  induction history using List.reverseRecOn with
  | nil => exact absurd held new
  | append_singleton history e ih =>
    obtain ⟨hadded, -⟩ := forall_mem_concat.mp added
    by_cases before : d ∈ (c.afterEvents home history).workloads
    · obtain ⟨place, first, found, manifest⟩ := ih hadded before
      exact ⟨place, first, by rw [List.find?_append, found, Option.some_or], manifest⟩
    · obtain ⟨asks, absent, place, manifest⟩ :=
        (change_afterEvents home c history e).of_workload_created before held
      -- an earlier one that asked would have left a workload in the way
      have none_earlier : history.find? (·.asksFor d.name) = none := by
        refine List.find?_eq_none.mpr fun e' he' asks' => ?_
        have held : ((c.afterEvents home history).workload? home d.name).isSome = true :=
          held_afterEvents hadded ⟨e', he', asks'⟩
        rw [absent] at held
        cases held
      refine ⟨place, e, ?_, manifest⟩
      rw [List.find?_append, none_earlier, Option.none_or, List.find?_cons_of_pos asks]

end Cluster

/-! ## Left alone -/

namespace StagedCluster

/-- Where the cluster itself answers all requests, it ends where it would without prepared
replies. -/
theorem cluster_run_of_genuine {α : Type} {p : Activity α} {s : StagedCluster}
    (genuine : ∀ x ∈ p.exchanges answer s, x.IsGenuine) :
    (p.run answer s).state.cluster = (p.run Cluster.answer s.cluster).state := by
  induction p generalizing s with
  | done a => rfl
  | raised f => rfl
  | note r next ih => exact ih genuine
  | request r next ih =>
    obtain ⟨first, rest⟩ := List.forall_mem_cons.mp genuine
    obtain ⟨reply, state⟩ := answer_of_unprepared first
    rw [Activity.state_run_request, Activity.state_run_request, ih _ rest, reply, state]

end StagedCluster

/-! ## What was delivered last -/

/-- Whether an event is about a group with that key. -/
def Event.isAbout (k : Key) (e : Event) : Bool :=
  (Key.ofGroup e.group).same k

/-- The last of a row of events that is about a key. -/
def lastAbout (k : Key) (events : List Event) : Option Event :=
  events.reverse.find? (·.isAbout k)

theorem lastAbout_concat (k : Key) (events : List Event) (e : Event) :
    lastAbout k (events ++ [e]) = if e.isAbout k then some e else lastAbout k events := by
  rw [lastAbout, List.reverse_concat, List.find?_cons, lastAbout]
  cases e.isAbout k <;> rfl

namespace Store

variable {s : Store} {events : List Event} {e : Event}

/-- An entry holds the object of the last event about its key. -/
def IsCurrent (events : List Event) (entry : Key × ServiceGroup) : Prop :=
  entry.1.same (Key.ofGroup entry.2) = true ∧
    ∃ e, lastAbout (Key.ofGroup entry.2) events = some e ∧ e.kind ≠ .deleted ∧ e.group = entry.2

/-- The group of an event that is not a deletion is current right after it. -/
theorem isCurrent_concat_self {k : Key} (kept : e.kind ≠ .deleted)
    (same : k.same (Key.ofGroup e.group) = true) : IsCurrent (events ++ [e]) (k, e.group) := by
  have about : e.isAbout (Key.ofGroup e.group) = true := Key.same_refl _
  exact ⟨same, e, by rw [lastAbout_concat, if_pos about], kept, rfl⟩

/-- An event about another key leaves an entry current. -/
theorem IsCurrent.concat_of_other {entry : Key × ServiceGroup} (h : IsCurrent events entry)
    (other : entry.1.same (Key.ofGroup e.group) = false) : IsCurrent (events ++ [e]) entry := by
  obtain ⟨same, last, found, kept, group⟩ := h
  refine ⟨same, last, ?_, kept, group⟩
  have apart : ¬ e.isAbout (Key.ofGroup entry.2) = true := fun about => by
    rw [Key.same_trans same (Key.same_symm about)] at other
    cases other
  rw [lastAbout_concat, if_neg apart, found]

/-- Reading a fitting event keeps every entry current. -/
theorem isCurrent_replayEvent (h : ∀ entry ∈ s.entries, IsCurrent events entry) (fits : s.Fits e) :
    ∀ entry ∈ (s.replayEvent e).entries, IsCurrent (events ++ [e]) entry := by
  rcases e with ⟨kind, group, before⟩
  cases kind with
  | added =>
    refine forall_mem_concat.mpr ⟨fun entry he => ?_, isCurrent_concat_self nofun (Key.same_refl _)⟩
    exact (h entry he).concat_of_other
      (get?_eq_none_iff.mp fits.1 entry.1 (List.mem_map_of_mem he))
  | modified =>
    intro entry he
    obtain ⟨old, hold, rfl⟩ := List.mem_map.mp he
    split
    · rename_i same
      exact isCurrent_concat_self nofun same
    · rename_i other
      exact (h old hold).concat_of_other (Bool.eq_false_iff.mpr other)
  | deleted =>
    intro entry he
    obtain ⟨hentry, other⟩ := List.mem_filter.mp he
    exact (h entry hentry).concat_of_other (Bool.not_eq_true' _ ▸ other)

/-- What events rebuild is current. -/
theorem isCurrent_replay
    (fitting : ∀ before e after, events = before ++ e :: after → (replay before).Fits e) :
    ∀ entry ∈ (replay events).entries, IsCurrent events entry := by
  induction events using List.reverseRecOn with
  | nil => exact fun entry he => absurd he List.not_mem_nil
  | append_singleton events e ih =>
    rw [replay_concat]
    refine isCurrent_replayEvent (ih fun before e' after split => ?_) (fitting events e [] rfl)
    exact fitting before e' (after ++ [e]) (by rw [split, List.append_assoc, List.cons_append])

/-- A store that mirrors events holds under each key the object of the last event about it. -/
theorem Mirrors.lastAbout_of_mem (h : s.Mirrors events) {g : ServiceGroup} (hg : g ∈ s.groups) :
    ∃ e, lastAbout (Key.ofGroup g) events = some e ∧ e.kind ≠ .deleted ∧ e.group = g := by
  obtain ⟨entry, he, rfl⟩ := List.mem_map.mp hg
  rw [h.rebuilt] at he
  exact (isCurrent_replay h.fitting entry he).2

/-- The first valid group of a name. -/
def firstValid? (s : Store) (name : Value) : Option ServiceGroup :=
  s.groups.find? fun g => g.name = name && decide g.IsValid

/-- The first valid group of a name is the first whose redelivery asks for it. -/
theorem find?_redeliveries (s : Store) (name : Value) :
    (s.groups.map Watching.redelivery).find? (·.asksFor name) =
      (s.firstValid? name).map Watching.redelivery := by
  rw [List.find?_map]
  rfl

end Store

/-- What is redelivered is handed over as added. -/
theorem Watching.kind_of_mem_redeliveries {groups : List ServiceGroup} :
    ∀ e ∈ groups.map redelivery, e.kind = .added := by
  intro e he
  obtain ⟨g, -, rfl⟩ := List.mem_map.mp he
  rfl

/-! ## Healing -/

/-- What a redelivery should make of a cluster, given what the watch remembers and the events by
which it came to. -/
structure Healed (home : Value) (store : Store) (events : List Event) (before after : Cluster) :
    Prop where
  /-- Every valid group has a workload of its name. -/
  held : ∀ g ∈ store.groups, g.IsValid → (after.workload? home g.name).isSome = true
  /-- A new workload is that of the first valid group of its name, as it was delivered last. -/
  created : ∀ d ∈ after.workloads, d ∉ before.workloads → d.namespaceName = home ∧
    ∃ g, store.firstValid? d.name = some g ∧
      (∃ e, lastAbout (Key.ofGroup g) events = some e ∧ e.kind ≠ .deleted ∧ e.group = g) ∧
      g.count = .int d.manifest.replicas ∧
      d.manifest.pod.containers.map (·.image) = [g.image]

theorem healed_afterEvents (home : Value) (c : Cluster) {store : Store} {events : List Event}
    (mirrors : store.Mirrors events) :
    Healed home store events c
      (c.afterEvents home (store.groups.map Watching.redelivery)) := by
  have added : ∀ e ∈ store.groups.map Watching.redelivery, e.kind = .added :=
    Watching.kind_of_mem_redeliveries
  constructor
  · intro g hg valid
    exact Cluster.held_afterEvents added
      ⟨_, List.mem_map_of_mem hg, Event.asksFor_iff.mpr ⟨rfl, rfl, valid⟩⟩
  · intro d held new
    obtain ⟨place, e, found, manifest⟩ := Cluster.first_of_workload_new added new held
    rw [Store.find?_redeliveries] at found
    obtain ⟨g, first, rfl⟩ := Option.map_eq_some_iff.mp found
    have valid : g.IsValid := by
      have chosen := List.find?_some first
      rw [Bool.and_eq_true, decide_eq_true_eq, decide_eq_true_eq] at chosen
      exact chosen.2
    exact ⟨place, g, first, mirrors.lastAbout_of_mem (List.mem_of_find?_eq_some first),
      Manifest.of_workload?_eq_ok valid manifest⟩

namespace Watching

open Reconciler

/-- **A redelivery heals.**  After any row of deliveries and redeliveries, from any cluster and
whatever was answered instead of it on the way, a redelivery whose requests are all answered by the
cluster itself leaves a workload for every valid group that is remembered, and creates none but that
of the first valid group of its name, as this was delivered last. -/
theorem redelivery_heals (home : Value) (tasks : List WatchTask) (s : StagedCluster)
    {w : Watching StagedCluster} {events : List Event}
    (reached : performAll (.ofActivity StagedCluster.answer (handle home)) tasks { outside := s } =
      (w, events))
    (genuine : ∀ x ∈ (handleAll home (w.store.groups.map redelivery)).exchanges
      StagedCluster.answer w.outside, x.IsGenuine) :
    let healed := (redeliver (.ofActivity StagedCluster.answer (handle home)) w).state
    healed.store = w.store ∧
      Healed home healed.store events w.outside.cluster healed.outside.cluster := by
  have mirrors : w.store.Mirrors events := by
    have h := mirrors_performAll (Handler.isQuiet_ofActivity StagedCluster.answer (handle home))
      tasks (w := { outside := s }) Store.mirrors_nil
    rw [reached] at h
    exact h
  rw [state_redeliver]
  refine ⟨rfl, ?_⟩
  have cluster := StagedCluster.cluster_run_of_genuine genuine
  simp only [cluster]
  exact healed_afterEvents home w.outside.cluster mirrors

/-- A cluster in which a workload `db` stands already, and whose next three creations of a workload
fail. -/
def woundedStage : StagedCluster where
  cluster := Cluster.empty.afterEvents (.str "default") [.sample .added "default" "db" 7]
  workloadReplies := List.replicate 3 (some (.error (.transport "connection reset")))

/-- A group that nobody may materialize, one of the same name elsewhere, one called `db`; then the
first is put right, and everything is redelivered in vain. -/
def woundedTasks : List WatchTask :=
  [.deliver .null (ServiceGroup.sampleBody (.str "default") (.str "web") (.int (-1))),
    .deliver (.str "ADDED") (ServiceGroup.sampleBody (.str "team-a") (.str "web") (.int 3)),
    .deliver (.str "MODIFIED") (ServiceGroup.sampleBody (.str "default") (.str "web") (.int 2)),
    .redeliver,
    .deliver .null (ServiceGroup.sampleBody (.str "default") (.str "db") (.int 4))]

/-- The watch after those tasks, and the events that were delivered. -/
def wounded : Watching StagedCluster × List Event :=
  performAll (.ofActivity StagedCluster.answer (handle (.str "default"))) woundedTasks
    { outside := woundedStage }

/-- The watch after one redelivery more. -/
def recovered : Watching StagedCluster :=
  (redeliver (.ofActivity StagedCluster.answer (handle (.str "default"))) wounded.1).state

/-- The last redelivery creates the workload of the group that was put right. -/
theorem woundedTasks_healed :
    (∀ x ∈ (handleAll (.str "default") (wounded.1.store.groups.map redelivery)).exchanges
      StagedCluster.answer wounded.1.outside, x.IsGenuine) ∧
    (recovered.store = wounded.1.store ∧
      Healed (.str "default") recovered.store wounded.2 wounded.1.outside.cluster
        recovered.outside.cluster) ∧
    wounded.1.outside.cluster.workloads.map (fun d => (d.name, d.manifest.replicas)) =
      [(.str "db", 7)] ∧
    recovered.outside.cluster.workloads.map (fun d => (d.name, d.manifest.replicas)) =
      [(.str "db", 7), (.str "web", 2)] := by
  have genuine : ∀ x ∈ (handleAll (.str "default")
      (wounded.1.store.groups.map redelivery)).exchanges StagedCluster.answer wounded.1.outside,
      x.IsGenuine := by decide +kernel
  exact ⟨genuine, redelivery_heals (.str "default") woundedTasks woundedStage
    (Prod.eta wounded).symm genuine, by decide +kernel, by decide +kernel⟩

end Watching

end GroupOperator
