import GroupOperator.Proofs.Materialization
import GroupOperator.Proofs.Reception
import GroupOperator.Watch.Interleaving

/-!
# Redelivery beside delivery, and what it brings back

A redelivery hands over a copy of what is remembered.  By the time it comes to an object of the
copy, the object may have been deleted, and then nobody remembers it and nobody will delete it
again.

* One step of either side does one of six things (`Interleaving.Move`).
* `Interleaving.Faithful` is what every run keeps: the cluster is what the calls of the handler made
  of it, what is remembered is what was received and not deleted, and a redelivery hands over only
  what was received.
* While no delivery is under way, a workload belongs to a remembered group exactly if no redelivery
  brought it back (`Interleaving.remembered_iff_not_resurrected`).
-/

namespace GroupOperator

/-- What the operator does with an event, the cluster being held in memory. -/
abbrev Reconciler.handler (home : Value) : Handler Cluster :=
  .ofActivity Cluster.answer (Reconciler.handle home)

/-! ## What is received -/

/-- Either no member of a list is such and such, or there is a last one that is. -/
theorem forall_or_exists_last {α : Type} (p : α → Bool) (l : List α) :
    (∀ a ∈ l, p a = false) ∨
      ∃ before a after, l = before ++ a :: after ∧ p a = true ∧ ∀ b ∈ after, p b = false := by
  induction l using List.reverseRecOn with
  | nil => exact .inl (by simp)
  | append_singleton l a ih =>
    cases ha : p a with
    | true => exact .inr ⟨l, a, [], rfl, ha, by simp⟩
    | false =>
      rcases ih with never | ⟨before, b, after, rfl, hb, later⟩
      · exact .inl (forall_mem_concat.mpr ⟨never, ha⟩)
      · exact .inr ⟨before, b, after ++ [a], by simp, hb, forall_mem_concat.mpr ⟨later, ha⟩⟩

/-- The last of a row of events that is about a name. -/
def latest (name : Value) (events : List Event) : Option Event :=
  events.reverse.find? (·.group.name = name)

theorem latest_append (name : Value) (first rest : List Event) :
    latest name (first ++ rest) = (latest name rest).or (latest name first) := by
  rw [latest, List.reverse_append, List.find?_append, latest, latest]

theorem latest_concat (name : Value) (events : List Event) (e : Event) :
    latest name (events ++ [e]) = if e.group.name = name then some e else latest name events := by
  by_cases h : e.group.name = name <;> simp [latest, h]

theorem of_latest_eq_some {name : Value} {events : List Event} {e : Event}
    (h : latest name events = some e) : e ∈ events ∧ e.group.name = name :=
  ⟨List.mem_reverse.mp (List.mem_of_find?_eq_some h), by simpa using List.find?_some h⟩

theorem latest_eq_none_iff {name : Value} {events : List Event} :
    latest name events = none ↔ ∀ e ∈ events, e.group.name ≠ name := by
  simp [latest]

theorem exists_latest {name : Value} {events : List Event} {e : Event} (h : e ∈ events)
    (hname : e.group.name = name) : ∃ last, latest name events = some last := by
  cases hl : latest name events with
  | none => exact absurd hname (latest_eq_none_iff.mp hl e h)
  | some last => exact ⟨last, rfl⟩

namespace Store

variable {s s' : Store} {k : Key} {g g' : ServiceGroup}

theorem of_mem_groups_put (h : g ∈ (s.put k g').groups) : g = g' ∨ g ∈ s.groups := by
  obtain ⟨entries⟩ := s
  simp only [groups, put] at h ⊢
  induction entries with
  | nil => exact .inl (List.mem_singleton.mp h)
  | cons entry rest ih =>
    rw [putEntry] at h
    split at h
    · rcases List.mem_cons.mp h with hg | hg
      · exact .inl hg
      · exact .inr (List.mem_cons_of_mem _ hg)
    · rcases List.mem_cons.mp h with hg | hg
      · exact .inr (hg ▸ List.mem_cons_self ..)
      · exact (ih hg).imp_right (List.mem_cons_of_mem _)

theorem of_mem_groups_erase (h : g ∈ (s.erase k).groups) : g ∈ s.groups := by
  obtain ⟨entry, he, rfl⟩ := List.mem_map.mp h
  exact List.mem_map.mpr ⟨entry, (List.mem_filter.mp he).1, rfl⟩

/-- An accepted notification becomes an event about the group in its body, and the store forgets
that group or keeps it. -/
theorem of_receive_eq_accepted {type body : Value} {e : Event}
    (h : s.receive type body = .accepted s' e) :
    ServiceGroup.ofBody? body = .ok e.group ∧
      s' = if e.kind = .deleted then s.erase (Key.ofGroup e.group)
        else s.put (Key.ofGroup e.group) e.group := by
  obtain ⟨g, hb, -, acceptance⟩ := acceptance_of_receive h
  cases acceptance with
  | added absent => exact ⟨hb, rfl⟩
  | modified present => exact ⟨hb, rfl⟩
  | deleted => exact ⟨hb, rfl⟩

/-- What is remembered after an accepted notification was remembered before, or is new. -/
theorem of_mem_groups_receive {type body : Value} {e : Event}
    (accepted : s.receive type body = .accepted s' e) (h : g ∈ s'.groups) :
    g = e.group ∨ g ∈ s.groups := by
  obtain ⟨-, rfl⟩ := of_receive_eq_accepted accepted
  split at h
  · exact .inr (of_mem_groups_erase h)
  · exact of_mem_groups_put h

/-- What a store remembers of the namespace `home` is what was received last and is not gone. -/
def Remembers (home : Value) (s : Store) (events : List Event) : Prop :=
  ∀ name : String, (s.get? ⟨home, .str name⟩).isSome = true ↔
    ∃ e, latest (.str name) events = some e ∧ e.kind ≠ .deleted

/-- Receiving keeps a store in step with what was received. -/
theorem Remembers.receive {home type body : Value} {events : List Event} {e : Event}
    (h : Remembers home s events) (accepted : s.receive type body = .accepted s' e)
    (here : e.group.namespaceName = home) (text : e.group.name.IsText) :
    Remembers home s' (events ++ [e]) := by
  intro name
  obtain ⟨-, rfl⟩ := of_receive_eq_accepted accepted
  obtain ⟨own, hown⟩ := text
  have hsame : (Key.ofGroup e.group).same ⟨home, .str name⟩ = (own == name) := by
    rw [Key.same, Key.ofGroup, here, hown, Value.equals_refl, Value.equals_str, Bool.true_and]
  rw [latest_concat, hown]
  by_cases hn : own = name
  · subst hn
    rw [if_pos rfl]
    split
    · rename_i deleted
      rw [get?_erase, hsame]
      simp [deleted]
    · rename_i kept
      rw [get?_put, hsame]
      simp [kept]
  · have hne : ¬ Value.str own = .str name := fun he => hn (Value.str.inj he)
    rw [if_neg hne, ← h name]
    split
    · rw [get?_erase, hsame]
      simp [hn]
    · rw [get?_put, hsame]
      simp [hn]

end Store

namespace Interleaving

/-! ## Calls -/

variable {σ : Type}

/-- Nothing has been done, and nothing is remembered. -/
def start (notifications : List (Value × Value)) (redeliveries : Nat) (outside : σ) :
    Interleaving σ where
  watching := ⟨{}, outside⟩
  notifications
  redeliveries

/-- The event for which a step calls the handler, if it does. -/
def nextCall (s : Interleaving σ) : Side → Option Event
  | .delivery => s.pending
  | .redelivery => s.remaining.head?.map Watching.redelivery

/-- The calls of the handler in a run, each with the side that makes it. -/
def calls (handler : Handler σ) : Interleaving σ → List Side → List (Side × Event)
  | _, [] => []
  | s, side :: rest =>
    ((s.nextCall side).map (side, ·)).toList ++ calls handler (s.step handler side) rest

theorem run_concat (handler : Handler σ) (s : Interleaving σ) (order : List Side) (side : Side) :
    run handler s (order ++ [side]) = (run handler s order).step handler side := by
  rw [run, List.foldl_append]
  rfl

theorem calls_concat (handler : Handler σ) (s : Interleaving σ) (order : List Side) (side : Side) :
    calls handler s (order ++ [side]) =
      calls handler s order ++ (((run handler s order).nextCall side).map (side, ·)).toList := by
  induction order generalizing s with
  | nil => simp [calls, run]
  | cons first rest ih =>
    simp only [List.cons_append, calls, ih, List.append_assoc, run, List.foldl_cons]

/-! ## One step -/

variable {home : Value} {s : Interleaving Cluster} {made : List (Side × Event)}

/-- A watch whose handler has been called for an event. -/
def handled (home : Value) (e : Event) (w : Watching Cluster) : Watching Cluster :=
  { w with outside := w.outside.afterEvents home [e] }

/-- The handler never fails. -/
theorem call_handler (home : Value) (e : Event) (w : Watching Cluster) :
    call (Reconciler.handler home) e w = (handled home e w, true) := by
  have hs : ((Reconciler.handle home e).run Cluster.answer w.outside).state =
      w.outside.afterEvents home [e] := by
    rw [Reconciler.state_handle, Cluster.afterEvents_eq_foldl]
    rfl
  have hr := Reconciler.result_handle Cluster.answer home w.outside e
  simp only [call, Watching.hand, Action.bind_eq, Action.bind, Action.emit, Action.within,
    Reconciler.handler, Handler.ofActivity, hr, hs, handled]
  rfl

/-- What a step of either side does, and the calls of the handler that it makes. -/
inductive Move (home : Value) (s : Interleaving Cluster) :
    Interleaving Cluster → List (Side × Event) → Prop where
  /-- A delivery calls the handler. -/
  | delivered {e : Event} (due : s.pending = some e) :
      Move home s { s with pending := none, watching := handled home e s.watching }
        [(.delivery, e)]
  /-- A delivery changes the store; its call is still to come. -/
  | received {type body : Value} {rest : List (Value × Value)} {store : Store} {e : Event}
      (idle : s.pending = none) (next : s.notifications = (type, body) :: rest)
      (accepted : s.watching.store.receive type body = .accepted store e) :
      Move home s { s with notifications := rest, pending := some e,
                           watching := { s.watching with store } } []
  /-- A delivery has nothing to do with its notification. -/
  | passed {n : Value × Value} {rest : List (Value × Value)} (next : s.notifications = n :: rest) :
      Move home s { s with notifications := rest } []
  /-- A redelivery calls the handler. -/
  | redelivered {g : ServiceGroup} {rest : List ServiceGroup} (left : s.remaining = g :: rest) :
      Move home s { s with watching := handled home (Watching.redelivery g) s.watching,
                           remaining := rest } [(.redelivery, Watching.redelivery g)]
  /-- A redelivery makes its copy. -/
  | copied {n : Nat} :
      Move home s { s with redeliveries := n, remaining := s.watching.store.groups } []
  /-- There is nothing to do. -/
  | idle : Move home s s []

/-- The one inversion of stepping: everything that a step can do. -/
theorem move_step (home : Value) (s : Interleaving Cluster) (side : Side) :
    Move home s (s.step (Reconciler.handler home) side)
      ((s.nextCall side).map (side, ·)).toList := by
  obtain ⟨watching, notifications, pending, redeliveries, remaining⟩ := s
  cases side with
  | delivery =>
    simp only [step, stepDelivery, nextCall]
    cases pending with
    | some e =>
      simp only [call_handler]
      exact .delivered rfl
    | none =>
      cases notifications with
      | nil => exact .idle
      | cons n rest =>
        obtain ⟨type, body⟩ := n
        cases hr : watching.store.receive type body with
        | accepted store e =>
          simp only [hr]
          exact .received rfl rfl hr
        | dropped _ | unkeyed _ | ignored _ _ =>
          simp only [hr]
          exact .passed rfl
  | redelivery =>
    simp only [step, stepRedelivery, nextCall]
    cases remaining with
    | cons g rest =>
      simp only [call_handler, if_true]
      exact .redelivered rfl
    | nil =>
      cases redeliveries with
      | zero => exact .idle
      | succ n => exact .copied

/-! ## What every run keeps -/

/-- The events for which deliveries have called the handler. -/
def deliveries (calls : List (Side × Event)) : List Event :=
  (calls.filter (·.1 = .delivery)).map (·.2)

theorem deliveries_append (first rest : List (Side × Event)) :
    deliveries (first ++ rest) = deliveries first ++ deliveries rest := by
  rw [deliveries, List.filter_append, List.map_append, deliveries, deliveries]

theorem mem_deliveries {calls : List (Side × Event)} {e : Event} :
    e ∈ deliveries calls ↔ (.delivery, e) ∈ calls := by
  simp [deliveries]

/-- The events that deliveries have received, the last of which may still have to be handed over. -/
def receptions (s : Interleaving Cluster) (calls : List (Side × Event)) : List Event :=
  deliveries calls ++ s.pending.toList

/-- A notification is about a group of the namespace `home`, with a text for a name, if it is about
a group at all. -/
def IsLocal (home : Value) (notification : Value × Value) : Prop :=
  ∀ g, ServiceGroup.ofBody? notification.2 = .ok g → g.namespaceName = home ∧ g.name.IsText

/-- The two sides, after some calls of the handler, have done nothing but what they should. -/
structure Faithful (home : Value) (s : Interleaving Cluster) (calls : List (Side × Event)) :
    Prop where
  /-- The cluster is what the calls made of it. -/
  outside : s.watching.outside = Cluster.empty.afterEvents home (calls.map (·.2))
  /-- What is still to be delivered is about groups of the operator's namespace. -/
  waiting : ∀ n ∈ s.notifications, IsLocal home n
  /-- So is what was received. -/
  here : ∀ e ∈ s.receptions calls, e.group.namespaceName = home ∧ e.group.name.IsText
  /-- What is remembered was received and is not gone. -/
  remembers : s.watching.store.Remembers home (s.receptions calls)
  /-- What is remembered, and what is left of a copy of it, was received just so. -/
  known : ∀ g ∈ s.watching.store.groups ++ s.remaining, ∃ e ∈ s.receptions calls, e.group = g
  /-- What was redelivered was handed over as added, and was received just so. -/
  redelivered : ∀ e, (.redelivery, e) ∈ calls →
    e.kind = .added ∧ ∃ x ∈ s.receptions calls, x.group = e.group

theorem faithful_start {notifications : List (Value × Value)} (redeliveries : Nat)
    (waiting : ∀ n ∈ notifications, IsLocal home n) :
    Faithful home (start notifications redeliveries Cluster.empty) [] where
  outside := rfl
  waiting := waiting
  here := by simp [receptions, deliveries, start]
  remembers := by simp [Store.Remembers, Store.get?, receptions, deliveries, start, latest]
  known := by simp [Store.groups, start]
  redelivered := by simp

namespace Faithful

variable {s' : Interleaving Cluster} {calls : List (Side × Event)}

/-- A change that is no reception keeps what there is to keep, if the calls made are accounted
for. -/
theorem of_receptions_eq (h : Faithful home s calls)
    (same : s'.receptions (calls ++ made) = s.receptions calls)
    (outside : s'.watching.outside = s.watching.outside.afterEvents home (made.map (·.2)))
    (store : s'.watching.store = s.watching.store)
    (waiting : ∀ n ∈ s'.notifications, n ∈ s.notifications)
    (remaining : ∀ g ∈ s'.remaining, g ∈ s.watching.store.groups ++ s.remaining)
    (redelivered : ∀ e, (.redelivery, e) ∈ made → e.kind = .added ∧ e.group ∈ s.remaining) :
    Faithful home s' (calls ++ made) where
  outside := by rw [outside, h.outside, List.map_append, Cluster.afterEvents_append]
  waiting := fun n hn => h.waiting n (waiting n hn)
  here := same ▸ h.here
  remembers := by
    rw [same, store]
    exact h.remembers
  known := by
    intro g hg
    rw [same]
    rw [store] at hg
    rcases List.mem_append.mp hg with hs | hr
    · exact h.known g (List.mem_append_left _ hs)
    · exact h.known g (remaining g hr)
  redelivered := by
    intro e he
    rw [same]
    rcases List.mem_append.mp he with hc | hm
    · exact h.redelivered e hc
    · obtain ⟨added, hg⟩ := redelivered e hm
      exact ⟨added, h.known _ (List.mem_append_right _ hg)⟩

/-- One step of either side keeps what there is to keep. -/
theorem move (h : Faithful home s calls) (m : Move home s s' made) :
    Faithful home s' (calls ++ made) := by
  cases m with
  | @delivered e due =>
    -- the event moves from the pending one to the calls, and was received before and after
    refine h.of_receptions_eq ?_ rfl rfl (fun _ => id) (fun _ => List.mem_append_right _) ?_
    · simp [receptions, deliveries, due]
    · simp
  | @received type body rest store e idle next accepted =>
    have hr : receptions { s with notifications := rest, pending := some e,
                                  watching := { s.watching with store } } calls =
        s.receptions calls ++ [e] := by
      simp [receptions, idle]
    have grown {g : ServiceGroup} (hg : ∃ x ∈ s.receptions calls, x.group = g) :
        ∃ x ∈ s.receptions calls ++ [e], x.group = g := by
      obtain ⟨x, hx, rfl⟩ := hg
      exact ⟨x, List.mem_append_left _ hx, rfl⟩
    have hb := (Store.of_receive_eq_accepted accepted).1
    have hlocal := h.waiting (type, body) (next ▸ List.mem_cons_self ..) e.group hb
    rw [List.append_nil]
    refine ⟨h.outside, fun n hn => h.waiting n (next ▸ List.mem_cons_of_mem _ hn), ?_, ?_, ?_, ?_⟩
    · rw [hr]
      exact forall_mem_concat.mpr ⟨h.here, hlocal⟩
    · rw [hr]
      exact h.remembers.receive accepted hlocal.1 hlocal.2
    · intro g hg
      rw [hr]
      rcases List.mem_append.mp hg with hs | hrem
      · rcases Store.of_mem_groups_receive accepted hs with rfl | hold
        · exact ⟨e, List.mem_append_right _ (List.mem_singleton_self e), rfl⟩
        · exact grown (h.known g (List.mem_append_left _ hold))
      · exact grown (h.known g (List.mem_append_right _ hrem))
    · intro x hx
      rw [hr]
      exact (h.redelivered x hx).imp_right grown
  | passed next =>
    refine h.of_receptions_eq ?_ rfl rfl ?_ (fun _ => List.mem_append_right _) ?_
    · simp [receptions]
    · intro n hn
      exact next ▸ List.mem_cons_of_mem _ hn
    · simp
  | @redelivered g rest left =>
    refine h.of_receptions_eq ?_ rfl rfl (fun _ => id) ?_ ?_
    · simp [receptions, deliveries]
    · intro x hx
      exact List.mem_append_right _ (left ▸ List.mem_cons_of_mem _ hx)
    · simp [left, Watching.redelivery]
  | copied =>
    refine h.of_receptions_eq ?_ rfl rfl (fun _ => id) (fun _ => List.mem_append_left _) ?_
    · simp [receptions]
    · simp
  | idle =>
    rw [List.append_nil]
    exact h

end Faithful

/-- Both sides after steps in the order given, beginning with nothing. -/
abbrev reached (home : Value) (notifications : List (Value × Value)) (redeliveries : Nat)
    (order : List Side) : Interleaving Cluster :=
  run (Reconciler.handler home) (start notifications redeliveries Cluster.empty) order

/-- The calls of the handler on the way there. -/
abbrev callsMade (home : Value) (notifications : List (Value × Value)) (redeliveries : Nat)
    (order : List Side) : List (Side × Event) :=
  calls (Reconciler.handler home) (start notifications redeliveries Cluster.empty) order

/-- Whatever the order of the steps, both sides do nothing but what they should. -/
theorem faithful_reached {notifications : List (Value × Value)} (redeliveries : Nat)
    (waiting : ∀ n ∈ notifications, IsLocal home n) (order : List Side) :
    Faithful home (reached home notifications redeliveries order)
      (callsMade home notifications redeliveries order) := by
  induction order using List.reverseRecOn with
  | nil => exact faithful_start redeliveries waiting
  | append_singleton order side ih =>
    rw [reached, callsMade, run_concat, calls_concat]
    exact ih.move (move_step home _ side)

/-! ## What is brought back -/

/-- A redelivery asked for the workload of a name after the last delivered event about the name, and
that event deleted it. -/
def Resurrected (home name : Value) (calls : List (Side × Event)) : Prop :=
  ∃ before deletion after, calls = before ++ (.delivery, deletion) :: after ∧
    deletion.deletes home name = true ∧
    (∀ e, (.delivery, e) ∈ after → e.group.name ≠ name) ∧
    ∃ e, (.redelivery, e) ∈ after ∧ e.asksFor name = true

namespace Faithful

variable {calls : List (Side × Event)} {name : String}

/-- Redelivery deletes nothing. -/
theorem side_of_deletes (h : Faithful home s calls) {side : Side} {e : Event} {n : Value}
    (he : (side, e) ∈ calls) (deletes : e.deletes home n = true) : side = .delivery := by
  cases side with
  | delivery => rfl
  | redelivery =>
    have hk := (Event.deletes_iff.mp deletes).1
    rw [(h.redelivered e he).1] at hk
    cases hk

/-- The last reception about a name that is not remembered was its deletion. -/
theorem deletes_of_forgotten (h : Faithful home s calls)
    (forgotten : s.watching.store.get? ⟨home, .str name⟩ = none) {e : Event}
    (last : latest (.str name) (s.receptions calls) = some e) :
    e.deletes home (.str name) = true := by
  obtain ⟨hm, hname⟩ := of_latest_eq_some last
  have deleted : e.kind = .deleted := Decidable.byContradiction fun hk => by
    have := (h.remembers name).mpr ⟨e, last, hk⟩
    rw [forgotten] at this
    cases this
  exact Event.deletes_iff.mpr ⟨deleted, (h.here e hm).1, hname⟩

/-- Whatever the handler was called for was received. -/
theorem received_of_asked (h : Faithful home s calls) {e : Event} (he : e ∈ calls.map (·.2)) :
    ∃ x ∈ s.receptions calls, x.group = e.group := by
  obtain ⟨⟨side, e⟩, hm, rfl⟩ := List.mem_map.mp he
  cases side with
  | delivery => exact ⟨e, List.mem_append_left _ (mem_deliveries.mpr hm), rfl⟩
  | redelivery => exact (h.redelivered e hm).2

/-- What is brought back has a text for a name. -/
theorem text_of_resurrected (h : Faithful home s calls) {n : Value}
    (back : Resurrected home n calls) : n.IsText := by
  obtain ⟨before, deletion, after, rfl, deletes, -⟩ := back
  have hm : deletion ∈ deliveries (before ++ (.delivery, deletion) :: after) :=
    mem_deliveries.mpr (List.mem_append_right _ (List.mem_cons_self ..))
  exact (Event.deletes_iff.mp deletes).2.2 ▸ (h.here _ (List.mem_append_left _ hm)).2

/-- While no delivery is under way, all that was received was handed over. -/
theorem receptions_of_idle (idle : s.pending = none) : s.receptions calls = deliveries calls := by
  rw [receptions, idle, Option.toList_none, List.append_nil]

/-- A name that was brought back is not remembered, its last reception being a deletion. -/
theorem forgotten_of_resurrected (h : Faithful home s calls) (idle : s.pending = none)
    (back : Resurrected home (.str name) calls) :
    s.watching.store.get? ⟨home, .str name⟩ = none := by
  obtain ⟨before, deletion, after, rfl, deletes, others, -⟩ := back
  obtain ⟨deleted, -, hname⟩ := Event.deletes_iff.mp deletes
  have quiet : latest (.str name) (deliveries after) = none :=
    latest_eq_none_iff.mpr fun x hx => others x (mem_deliveries.mp hx)
  have last : latest (.str name)
      (s.receptions (before ++ (.delivery, deletion) :: after)) = some deletion := by
    rw [receptions_of_idle idle, List.append_cons, deliveries_append, latest_append, quiet,
      Option.none_or, deliveries_append]
    exact (latest_concat _ _ deletion).trans (if_pos hname)
  refine Option.not_isSome_iff_eq_none.mp fun hs => ?_
  obtain ⟨x, hx, kept⟩ := (h.remembers name).mp hs
  obtain rfl := Option.some.inj (last.symm.trans hx)
  exact kept deleted

/-- The workload of a name that was brought back was asked for since it was last deleted. -/
theorem asked_of_resurrected (h : Faithful home s calls)
    (back : Resurrected home (.str name) calls) :
    ∃ e ∈ sinceDeletion home (.str name) (calls.map (·.2)), e.asksFor (.str name) = true := by
  obtain ⟨before, deletion, after, rfl, deletes, others, e, he, asks⟩ := back
  have later : ∀ x ∈ after.map (·.2), x.deletes home (.str name) = false := by
    intro x hx
    obtain ⟨⟨side, x⟩, hm, rfl⟩ := List.mem_map.mp hx
    refine Bool.eq_false_iff.mpr fun hd => ?_
    obtain rfl := h.side_of_deletes (List.mem_append_right _ (List.mem_cons_of_mem _ hm)) hd
    exact others x hm (Event.deletes_iff.mp hd).2.2
  rw [List.map_append, List.map_cons, sinceDeletion_append_deletion _ deletes later]
  exact ⟨e, List.mem_map.mpr ⟨_, he, rfl⟩, asks⟩

/-- A name that is not remembered was brought back if its workload was asked for since it was last
deleted. -/
theorem resurrected_of_forgotten (h : Faithful home s calls) (idle : s.pending = none)
    (forgotten : s.watching.store.get? ⟨home, .str name⟩ = none) {e : Event}
    (he : e ∈ sinceDeletion home (.str name) (calls.map (·.2)))
    (asks : e.asksFor (.str name) = true) : Resurrected home (.str name) calls := by
  have hname := (Event.asksFor_iff.mp asks).2.1
  rcases forall_or_exists_last (fun call => call.2.deletes home (.str name)) calls with
    never | ⟨before, ⟨side, deletion⟩, after, rfl, deletes, later⟩
  · -- what was asked for was received, and what was received last would be its deletion
    obtain ⟨x, hx, hxname⟩ := h.received_of_asked ((List.rtakeWhile_suffix _ _).subset he)
    obtain ⟨y, last⟩ := exists_latest hx ((congrArg (·.name) hxname).trans hname)
    have hy := (of_latest_eq_some last).1
    rw [receptions_of_idle idle] at hy
    have hn := never _ (mem_deliveries.mp hy)
    rw [h.deletes_of_forgotten forgotten last] at hn
    cases hn
  · obtain rfl := h.side_of_deletes (List.mem_append_right _ (List.mem_cons_self ..)) deletes
    -- a later delivery about the name would be a deletion too, and there is no later one
    have others : ∀ x, (.delivery, x) ∈ after → x.group.name ≠ .str name := by
      intro x hx hxname
      obtain ⟨y, last⟩ := exists_latest (mem_deliveries.mpr hx) hxname
      have hy := later _ (mem_deliveries.mp (of_latest_eq_some last).1)
      have hlast : latest (.str name)
          (s.receptions (before ++ (.delivery, deletion) :: after)) = some y := by
        rw [receptions_of_idle idle, List.append_cons, deliveries_append, latest_append, last,
          Option.some_or]
      rw [h.deletes_of_forgotten forgotten hlast] at hy
      cases hy
    have hlater : ∀ x ∈ after.map (·.2), x.deletes home (.str name) = false := by
      intro x hx
      obtain ⟨call, hc, rfl⟩ := List.mem_map.mp hx
      exact later call hc
    rw [List.map_append, List.map_cons, sinceDeletion_append_deletion _ deletes hlater] at he
    obtain ⟨⟨side, e⟩, hm, rfl⟩ := List.mem_map.mp he
    refine ⟨before, deletion, after, rfl, deletes, others, e, ?_, asks⟩
    cases side with
    | delivery => exact absurd hname (others e hm)
    | redelivery => exact hm

end Faithful

/-- **What redelivery brings back.**  Beginning with nothing, let notifications about groups of the
operator's namespace be delivered and all that is remembered be redelivered, the steps of both sides
coming in any order.  While no delivery is under way, a workload belongs to a remembered group
exactly if its name was not brought back, that is, if no redelivery came to the name after the
deletion that was the last delivered event about it had been handled.  Every name brought back has a
workload. -/
theorem remembered_iff_not_resurrected (home : Value) (notifications : List (Value × Value))
    (redeliveries : Nat) (order : List Side) (waiting : ∀ n ∈ notifications, IsLocal home n)
    (idle : (reached home notifications redeliveries order).pending = none) :
    (∀ d ∈ (reached home notifications redeliveries order).watching.outside.workloads,
      (∃ g, (reached home notifications redeliveries order).watching.store.get?
          ⟨d.namespaceName, d.name⟩ = some g) ↔
        ¬ Resurrected home d.name (callsMade home notifications redeliveries order)) ∧
    ∀ name, Resurrected home name (callsMade home notifications redeliveries order) →
      ∃ d ∈ (reached home notifications redeliveries order).watching.outside.workloads,
        d.name = name := by
  have h := faithful_reached redeliveries waiting order
  generalize reached home notifications redeliveries order = s at h idle ⊢
  generalize callsMade home notifications redeliveries order = calls at h ⊢
  have text : ∀ e ∈ calls.map (·.2), e.group.name.IsText := by
    intro e he
    obtain ⟨x, hx, hg⟩ := h.received_of_asked he
    exact hg ▸ (h.here x hx).2
  have hc := Cluster.complete_afterEvents (Cluster.complete_empty home) text
  have hh (name : String) := Cluster.holds_afterEvents home (.str name) (calls.map (·.2))
  rw [h.outside]
  constructor
  · intro d hd
    obtain ⟨name, hname⟩ := hc.workload_text d hd
    have hw := hc.workload?_eq_some_iff.mpr ⟨hd, hname⟩
    obtain ⟨e, he, asks⟩ := (hh name).isSome_iff.mp (by rw [hw, Option.isSome_some])
    rw [hc.workload_home d hd, hname, ← Option.isSome_iff_exists]
    constructor
    · intro remembered back
      rw [h.forgotten_of_resurrected idle back] at remembered
      cases remembered
    · intro kept
      refine Decidable.byContradiction fun hs => kept ?_
      exact h.resurrected_of_forgotten idle (Option.not_isSome_iff_eq_none.mp hs) he asks
  · intro name back
    obtain ⟨own, rfl⟩ := h.text_of_resurrected back
    obtain ⟨d, hd⟩ := Option.isSome_iff_exists.mp
      ((hh own).isSome_iff.mpr (h.asked_of_resurrected back))
    obtain ⟨hm, -, hname⟩ := Cluster.of_workload?_eq_some hd
    exact ⟨d, hm, hname⟩

/-- The object of a group `web` of the namespace `default`. -/
def webBody : Value :=
  .object [("metadata", .object [("name", .str "web"), ("namespace", .str "default")]),
    ("spec", .object [("count", .int 1), ("image", .str "nginx")])]

/-- The group is added; a redelivery makes its copy; the group is deleted; the redelivery goes
on. -/
def racingOrder : List Side :=
  [.delivery, .delivery, .redelivery, .delivery, .delivery, .redelivery]

theorem web_resurrected :
    (reached (.str "default") [(.null, webBody), (.str "DELETED", webBody)] 1
      racingOrder).isQuiet = true ∧
    Resurrected (.str "default") (.str "web") (callsMade (.str "default")
      [(.null, webBody), (.str "DELETED", webBody)] 1 racingOrder) ∧
    ∃ d ∈ (reached (.str "default") [(.null, webBody), (.str "DELETED", webBody)] 1
        racingOrder).watching.outside.workloads,
      d.name = .str "web" ∧
        ¬ ∃ g, (reached (.str "default") [(.null, webBody), (.str "DELETED", webBody)] 1
          racingOrder).watching.store.get? ⟨d.namespaceName, d.name⟩ = some g := by
  have hbody : ServiceGroup.ofBody? webBody =
      .ok (Event.sample .added "default" "web" 1).group := rfl
  have waiting : ∀ n ∈ [(Value.null, webBody), (.str "DELETED", webBody)],
      IsLocal (.str "default") n := by
    intro n hn g hg
    have hn : n.2 = webBody := by
      rcases List.mem_pair.mp hn with rfl | rfl <;> rfl
    rw [hn, hbody] at hg
    obtain rfl := Except.ok.inj hg
    exact ⟨rfl, "web", rfl⟩
  have back : Resurrected (.str "default") (.str "web") (callsMade (.str "default")
      [(.null, webBody), (.str "DELETED", webBody)] 1 racingOrder) := by
    refine ⟨[(.delivery, .sample .added "default" "web" 1)], .sample .deleted "default" "web" 1,
      [(.redelivery, .sample .added "default" "web" 1)], ?_, ?_, ?_, ?_⟩
    · decide +kernel
    · decide
    · simp
    · exact ⟨_, List.mem_singleton_self _, by decide⟩
  obtain ⟨remembered, brought⟩ := remembered_iff_not_resurrected (.str "default")
    [(.null, webBody), (.str "DELETED", webBody)] 1 racingOrder waiting (by decide +kernel)
  obtain ⟨d, hd, hname⟩ := brought (.str "web") back
  exact ⟨by decide +kernel, back, d, hd, hname, fun h => (remembered d hd).mp h (hname ▸ back)⟩

end Interleaving

end GroupOperator
