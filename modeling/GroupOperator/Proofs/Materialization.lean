import GroupOperator.Proofs.Ownership
import Mathlib.Data.List.DropRight

/-!
# What a history leaves behind

`standing` reads off a history, event by event, whose workload should be held at its end.  Here it
is shown that the cluster holds just that: one event changes what is held under a name as it changes
what stands (`Cluster.Holds.change`), and so does a history.

Read from the end, what stands is the first valid group of the name that was added since the
workload was last deleted (`standing_eq_find?`).  Together with the ownership of peer files this
says all that a cluster holds after a history that began with nothing: `Cluster.Reflects`.
-/

namespace GroupOperator

/-! ## Since the last deletion -/

/-- The part of a history that lies behind the last deletion of the workload of a name. -/
def sinceDeletion (home name : Value) (history : List Event) : List Event :=
  history.rtakeWhile fun e => !e.deletes home name

theorem sinceDeletion_concat (home name : Value) (history : List Event) (e : Event) :
    sinceDeletion home name (history ++ [e]) =
      if e.deletes home name then [] else sinceDeletion home name history ++ [e] := by
  rw [sinceDeletion, List.rtakeWhile_concat]
  cases e.deletes home name <;> rfl

/-- Behind a deletion that is followed by no other lies all that follows it. -/
theorem sinceDeletion_append_deletion {home name : Value} (before : List Event)
    {deletion : Event} {after : List Event} (deletes : deletion.deletes home name = true)
    (later : ∀ e ∈ after, e.deletes home name = false) :
    sinceDeletion home name (before ++ deletion :: after) = after := by
  induction after using List.reverseRecOn with
  | nil => rw [sinceDeletion_concat, if_pos deletes]
  | append_singleton after e ih =>
    obtain ⟨hafter, he⟩ := forall_mem_concat.mp later
    rw [← List.cons_append, ← List.append_assoc, sinceDeletion_concat, he,
      if_neg Bool.false_ne_true, ih hafter]

/-- What stands is the first that was asked for since the last deletion. -/
theorem standing_eq_find? (home name : Value) (history : List Event) :
    standing home name history =
      ((sinceDeletion home name history).find? (·.asksFor name)).map (·.group) := by
  induction history using List.reverseRecOn with
  | nil => rfl
  | append_singleton history e ih =>
    rw [standing_concat, ih, sinceDeletion_concat, Event.standing]
    split
    · rfl
    · rw [List.find?_append]
      cases hf : (sinceDeletion home name history).find? (·.asksFor name) with
      | none => by_cases ha : e.asksFor name = true <;> simp [ha]
      | some first => by_cases ha : e.asksFor name = true <;> simp [ha]

/-! ## What stands is held -/

theorem Event.asksFor_iff {name : Value} {e : Event} :
    e.asksFor name = true ↔ e.kind = .added ∧ e.group.name = name ∧ e.group.IsValid := by
  simp only [asksFor, Bool.and_eq_true, decide_eq_true_eq, and_assoc]

theorem Event.deletes_iff {home name : Value} {e : Event} :
    e.deletes home name = true ↔
      e.kind = .deleted ∧ e.group.namespaceName = home ∧ e.group.name = name := by
  simp only [deletes, Bool.and_eq_true, decide_eq_true_eq, and_assoc]

namespace Cluster

variable {home name : Value} {c c' : Cluster}

/-- A cluster holds under a name the workload of the group given, or none if none is given. -/
def Holds (home name : Value) (c : Cluster) (g : Option ServiceGroup) : Prop :=
  (c.workload? home name).map (fun w => Except.ok w.manifest) = g.map (Manifest.workload? · home)

theorem Holds.eq_none {g : Option ServiceGroup} (h : Holds home name c g)
    (absent : c.workload? home name = none) : g = none := by
  rw [Holds, absent, Option.map_none] at h
  exact Option.map_eq_none_iff.mp h.symm

theorem Holds.isSome {g : Option ServiceGroup} (h : Holds home name c g) :
    (c.workload? home name).isSome = g.isSome := by
  rw [← Option.isSome_map (f := fun w : Stored Manifest.Workload =>
    (Except.ok w.manifest : Except Failure Manifest.Workload)), h, Option.isSome_map]

/-- One event changes what is held as it changes what stands. -/
theorem Holds.change {g : Option ServiceGroup} {e : Event} (h : Holds home name c g)
    (hc : Change home c e c') : Holds home name c' (Event.standing home name g e) := by
  cases hc with
  | materialized added valid manifest absent =>
    have hname := Manifest.name_of_workload? manifest
    have hd : ¬ e.deletes home name = true := fun hd => by
      rw [(Event.deletes_iff.mp hd).1] at added
      cases added
    rw [Holds, workload?_createPeerFile, workload?_withWorkload, Event.standing, if_neg hd]
    by_cases hn : e.group.name = name
    · subst hn
      rw [if_pos ⟨rfl, hname⟩, if_pos (Event.asksFor_iff.mpr ⟨added, rfl, valid⟩), absent,
        h.eq_none absent]
      exact congrArg some manifest.symm
    · have ha : ¬ e.asksFor name = true := fun ha => hn (Event.asksFor_iff.mp ha).2.1
      rw [if_neg fun hh => hn (hname.symm.trans hh.2), if_neg ha, Option.or_none]
      exact h
  | dissolved deleted present =>
    have ha : ¬ e.asksFor name = true := fun ha => by
      rw [(Event.asksFor_iff.mp ha).1] at deleted
      cases deleted
    rw [Holds, workload?_withoutWorkload, Event.standing, if_neg ha]
    by_cases hd : e.deletes home name = true
    · rw [if_pos hd, if_pos (Event.deletes_iff.mp hd).2]
      rfl
    · rw [if_neg hd, if_neg fun hh => hd (Event.deletes_iff.mpr ⟨deleted, hh⟩)]
      exact h
  | kept added deleted =>
    rw [Event.standing]
    by_cases hd : e.deletes home name = true
    · obtain ⟨hk, rfl, rfl⟩ := Event.deletes_iff.mp hd
      rw [if_pos hd, Holds, deleted hk]
      rfl
    · rw [if_neg hd]
      by_cases ha : e.asksFor name = true
      · obtain ⟨hk, rfl, hv⟩ := Event.asksFor_iff.mp ha
        rw [if_pos ha]
        cases g with
        | none =>
          exact absurd (Option.map_eq_none_iff.mp h) (added hk hv)
        | some g => exact h
      · rw [if_neg ha]
        exact h

/-- A history that begins with nothing leaves what stands after it. -/
theorem holds_afterEvents (home name : Value) (history : List Event) :
    Holds home name (empty.afterEvents home history) (standing home name history) := by
  induction history using List.reverseRecOn with
  | nil => rfl
  | append_singleton history e ih =>
    rw [standing_concat]
    exact ih.change (change_afterEvents home empty history e)

/-! ## All that is held -/

/-- What a cluster holds under a name is what a history, which began with nothing, says. -/
structure Reflects (home : Value) (history : List Event) (name : Value) (c : Cluster) : Prop where
  /-- A workload is held exactly if a valid group of that name was added, wherever that group lies,
  and the workload was not deleted since. -/
  workload_iff : (c.workload? home name).isSome = true ↔
    ∃ e ∈ sinceDeletion home name history, e.asksFor name = true
  /-- It is the workload of the first such group. -/
  workload_first : ∀ w, c.workload? home name = some w →
    ∃ e, (sinceDeletion home name history).find? (·.asksFor name) = some e ∧
      e.group.count = .int w.manifest.replicas ∧
      w.manifest.pod.containers.map (·.image) = [e.group.image]
  /-- A peer file is held exactly if the workload is. -/
  peerFile_iff : (c.peerFile? home (.str (Manifest.peerFileName name))).isSome = true ↔
    (c.workload? home name).isSome = true
  /-- The workload is its only owner. -/
  peerFile_owner : ∀ w f, c.workload? home name = some w →
    c.peerFile? home (.str (Manifest.peerFileName name)) = some f → f.owners = [.str w.uid]

/-- A valid group that stands is the first that was asked for. -/
theorem Holds.first {history : List Event} {w : Stored Manifest.Workload}
    (h : Holds home name c (standing home name history)) (hw : c.workload? home name = some w) :
    ∃ e, (sinceDeletion home name history).find? (·.asksFor name) = some e ∧
      Manifest.workload? e.group home = .ok w.manifest := by
  rw [Holds, hw, standing_eq_find?] at h
  cases hf : (sinceDeletion home name history).find? (·.asksFor name) with
  | none =>
    rw [hf] at h
    cases h
  | some e =>
    rw [hf] at h
    exact ⟨e, rfl, (Option.some.inj h).symm⟩

/-- A workload is held after a history exactly if one was asked for since it was last deleted. -/
theorem Holds.isSome_iff {history : List Event}
    (h : Holds home name c (standing home name history)) :
    (c.workload? home name).isSome = true ↔
      ∃ e ∈ sinceDeletion home name history, e.asksFor name = true := by
  rw [h.isSome, standing_eq_find?, Option.isSome_map, List.find?_isSome]

/-- **A history and the cluster it leaves say the same.**  Beginning with nothing, whatever groups
with texts for names are added, modified and deleted, in whatever order and wherever they lie, the
cluster is complete and reflects the history under every name. -/
theorem afterEvents_reflects_history (home : Value) {history : List Event}
    (text : ∀ e ∈ history, e.group.name.IsText) :
    Complete home (empty.afterEvents home history) ∧
      ∀ name : String, Reflects home history (.str name) (empty.afterEvents home history) := by
  have hc : Complete home (empty.afterEvents home history) :=
    complete_afterEvents (complete_empty home) text
  refine ⟨hc, fun name => ?_⟩
  have hh := holds_afterEvents home (.str name) history
  refine ⟨hh.isSome_iff, ?_, ?_, ?_⟩
  · intro w hw
    obtain ⟨e, he, hm⟩ := hh.first hw
    have hv := (Event.asksFor_iff.mp (List.find?_some he)).2.2
    exact ⟨e, he, Manifest.of_workload?_eq_ok hv hm⟩
  · cases hw : (empty.afterEvents home history).workload? home (.str name) with
    | none => rw [hc.peerFile?_eq_none ⟨name, rfl⟩ hw, Option.isSome_none, Option.isSome_none]
    | some w =>
      obtain ⟨f, hf, -⟩ := hc.exists_peerFile? hw
      rw [hf, Option.isSome_some, Option.isSome_some]
  · intro w f hw hf
    obtain ⟨g, hg, ho⟩ := hc.exists_peerFile? hw
    obtain rfl := Option.some.inj (hf.symm.trans hg)
    exact ho

/-- A group that comes, is asked for from elsewhere, goes and comes back, beside one that nobody may
materialize. -/
def sampleHistory : List Event :=
  [.sample .added "team-a" "web" 1, .sample .added "default" "web" 2,
    .sample .deleted "team-a" "web" 1, .sample .added "default" "db" (-1),
    .sample .deleted "default" "web" 2, .sample .modified "default" "web" 3,
    .sample .added "team-b" "web" 4, .sample .added "default" "web" 5]

theorem sampleHistory_reflected :
    (∀ e ∈ sampleHistory, e.group.name.IsText) ∧
      (Complete (.str "default") (empty.afterEvents (.str "default") sampleHistory) ∧
        ∀ name : String, Reflects (.str "default") sampleHistory (.str name)
          (empty.afterEvents (.str "default") sampleHistory)) ∧
      ((empty.afterEvents (.str "default") sampleHistory).workload? (.str "default")
        (.str "web")).map (·.manifest.replicas) = some 4 ∧
      (empty.afterEvents (.str "default") sampleHistory).workload? (.str "default")
        (.str "db") = none := by
  have text : ∀ e ∈ sampleHistory, e.group.name.IsText := by decide
  exact ⟨text, afterEvents_reflects_history (.str "default") text, by decide +kernel,
    by decide +kernel⟩

end Cluster

end GroupOperator
