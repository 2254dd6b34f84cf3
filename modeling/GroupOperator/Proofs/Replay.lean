import GroupOperator.Proofs.Course
import GroupOperator.Proofs.Reception

/-!
# The law of replay

Whoever sees only the events that deliveries hand over knows what the watch remembers, entry by
entry and in order, whatever the handler does with them.

* An event *fits* what a reader remembers if it says what was there before: an addition is about a
  key that is not remembered, a modification brings along just what is remembered under its key.
* A store *mirrors* a row of events if the row rebuilds it, every event fits what the events before
  it built, and no two keys are equal.

The watch writes with one operation, `put`, where a reader appends or replaces; for a key that is
not there the one is the other, and for a key that is there once so it is too.  Hence one accepted
notification keeps the store a mirror of the events (`Mirrors.concat`), and so does any row of
tasks.
-/

namespace GroupOperator

namespace Store

variable {s s' : Store} {k : Key} {g old : ServiceGroup}

/-! ## Keys -/

/-- No two keys are equal. -/
def Distinct (s : Store) : Prop :=
  s.keys.Pairwise fun k l => k.same l = false

instance (s : Store) : Decidable s.Distinct :=
  inferInstanceAs (Decidable (List.Pairwise _ _))

/-- A key holds nothing if it equals no key of the store. -/
theorem get?_eq_none_iff : s.get? k = none ↔ ∀ l ∈ s.keys, l.same k = false := by
  simp [get?, keys]

theorem keys_append : (s.append k g).keys = s.keys ++ [k] := by
  simp [append, keys]

theorem keys_replace : (s.replace k g).keys = s.keys := by
  simp only [replace, keys, List.map_map]
  refine List.map_congr_left fun entry _ => ?_
  simp only [Function.comp_apply]
  split <;> rfl

theorem keys_erase : (s.erase k).keys = s.keys.filter fun l => !l.same k := by
  simp only [erase, keys, List.filter_map]
  rfl

theorem Distinct.append (h : s.Distinct) (absent : s.get? k = none) : (s.append k g).Distinct := by
  rw [Distinct, keys_append]
  refine List.pairwise_append.mpr ⟨h, List.pairwise_singleton _ _, fun l hl m hm => ?_⟩
  rw [List.mem_singleton.mp hm]
  exact get?_eq_none_iff.mp absent l hl

theorem Distinct.replace (h : s.Distinct) : (s.replace k g).Distinct := by
  rw [Distinct, keys_replace]
  exact h

theorem Distinct.erase (h : s.Distinct) : (s.erase k).Distinct := by
  rw [Distinct, keys_erase]
  exact List.Pairwise.filter _ h

/-! ## Putting is appending or replacing -/

theorem putEntry_of_absent {entries : List (Key × ServiceGroup)}
    (absent : ∀ entry ∈ entries, entry.1.same k = false) :
    putEntry k g entries = entries ++ [(k, g)] := by
  induction entries with
  | nil => rfl
  | cons entry rest ih =>
    obtain ⟨first, others⟩ := List.forall_mem_cons.mp absent
    rw [putEntry, if_neg (by simp [first]), ih others, List.cons_append]

/-- Where no key is equal there is nothing to replace. -/
theorem map_replace_of_absent {entries : List (Key × ServiceGroup)}
    (absent : ∀ entry ∈ entries, entry.1.same k = false) :
    (entries.map fun entry => if entry.1.same k then (entry.1, g) else entry) = entries := by
  refine (List.map_congr_left fun entry he => ?_).trans (List.map_id entries)
  simp [absent entry he]

theorem putEntry_of_present {entries : List (Key × ServiceGroup)}
    (distinct : (entries.map (·.1)).Pairwise fun k l => k.same l = false)
    (present : ∃ entry ∈ entries, entry.1.same k = true) :
    putEntry k g entries =
      entries.map fun entry => if entry.1.same k then (entry.1, g) else entry := by
  induction entries with
  | nil => simp at present
  | cons entry rest ih =>
    rw [List.map_cons, List.pairwise_cons] at distinct
    rw [putEntry, List.map_cons]
    by_cases first : entry.1.same k = true
    · -- no later key is equal to this one, so none is equal to `k`
      have absent : ∀ other ∈ rest, other.1.same k = false := by
        intro other ho
        refine Bool.eq_false_iff.mpr fun hk => ?_
        have apart := distinct.1 other.1 (List.mem_map_of_mem ho)
        rw [Key.same_trans first (Key.same_symm hk)] at apart
        cases apart
      rw [if_pos first, if_pos first, map_replace_of_absent absent]
    · have later : ∃ other ∈ rest, other.1.same k = true := by
        obtain ⟨other, ho, hk⟩ := present
        rcases List.mem_cons.mp ho with rfl | ho
        · exact absurd hk first
        · exact ⟨other, ho, hk⟩
      rw [if_neg first, if_neg first, ih distinct.2 later]

theorem put_of_absent (absent : s.get? k = none) : s.put k g = s.append k g := by
  rw [put, append, putEntry_of_absent]
  intro entry he
  exact get?_eq_none_iff.mp absent entry.1 (List.mem_map_of_mem he)

theorem put_of_present (distinct : s.Distinct) (present : s.get? k = some old) :
    s.put k g = s.replace k g := by
  rw [put, replace, putEntry_of_present distinct]
  obtain ⟨entry, found, -⟩ := Option.map_eq_some_iff.mp present
  have equal := List.find?_some found
  exact ⟨entry, List.mem_of_find?_eq_some found, equal⟩

/-! ## Events that fit -/

/-- Whether an event says what was there before. -/
def Fits (s : Store) (e : Event) : Prop :=
  match e.kind with
  | .added => s.get? (Key.ofGroup e.group) = none ∧ e.old = none
  | .modified => ∃ old, s.get? (Key.ofGroup e.group) = some old ∧ e.old = some old
  | .deleted => e.old = none

/-- A reader of what was accepted writes what the watch wrote. -/
theorem Acceptance.eq_replayEvent {e : Event} (h : Acceptance s g s' e) (distinct : s.Distinct) :
    s' = s.replayEvent e ∧ s.Fits e := by
  cases h with
  | added absent => exact ⟨put_of_absent absent, absent, rfl⟩
  | modified present => exact ⟨put_of_present distinct present, _, present, rfl⟩
  | deleted => exact ⟨rfl, rfl⟩

/-- Reading a fitting event keeps the keys apart. -/
theorem Distinct.replayEvent {e : Event} (h : s.Distinct) (fits : s.Fits e) :
    (s.replayEvent e).Distinct := by
  rcases e with ⟨kind, group, before⟩
  cases kind with
  | added => exact h.append fits.1
  | modified => exact h.replace
  | deleted => exact h.erase

/-! ## Mirrors -/

/-- A store is what a row of events says. -/
structure Mirrors (s : Store) (events : List Event) : Prop where
  /-- The events rebuild the store, its entries and their order. -/
  rebuilt : s = replay events
  /-- Every event fits what the events before it built. -/
  fitting : ∀ before e after, events = before ++ e :: after → (replay before).Fits e
  /-- No two keys are equal. -/
  distinct : s.Distinct

theorem mirrors_nil : Mirrors {} [] where
  rebuilt := rfl
  fitting := by simp
  distinct := .nil

theorem replay_concat (events : List Event) (e : Event) :
    replay (events ++ [e]) = (replay events).replayEvent e := by
  simp [replay]

/-- One more notification that is accepted. -/
theorem Mirrors.concat {events : List Event} {e : Event} (h : Mirrors s events)
    (accepted : Acceptance s g s' e) : Mirrors s' (events ++ [e]) := by
  obtain ⟨written, fits⟩ := accepted.eq_replayEvent h.distinct
  refine ⟨?_, ?_, written ▸ h.distinct.replayEvent fits⟩
  · rw [replay_concat, ← h.rebuilt]
    exact written
  · intro before e' after split
    -- the event is the last one, or one of those before it
    rcases List.eq_nil_or_concat after with rfl | ⟨rest, last, rfl⟩
    · obtain ⟨rfl, he⟩ := List.append_inj' split rfl
      rw [← h.rebuilt, ← (List.cons.inj he).1]
      exact fits
    · rw [List.concat_eq_append, ← List.cons_append, ← List.append_assoc] at split
      exact h.fitting before e' rest (List.append_inj' split rfl).1

end Store

/-! ## Handlers -/

namespace Handler

variable {σ : Type} {handler : Handler σ}

/-- A handler that does not hand events over in its turn. -/
def IsQuiet (handler : Handler σ) : Prop :=
  ∀ e s, (handler e s).chronicle.events = []

theorem isQuiet_ofActivity (answer : Answering σ) (handle : Event → Activity Unit) :
    (ofActivity answer handle).IsQuiet :=
  fun e s => Activity.events_run answer (handle e) s

theorem isQuiet_rehearsed : rehearsed.IsQuiet := by
  intro e prepared
  rcases prepared with - | ⟨- | f, rest⟩ <;> rfl

/-- How a handler takes the events that are due, from a state: which are handed over and how it
ends. -/
inductive Takes (handler : Handler σ) (s : σ) :
    List Event → List Event → Except Failure Unit → Prop where
  /-- It takes all of them. -/
  | all {due : List Event} (fine : (Action.forEach handler due s).result = .ok ()) :
      Takes handler s due due (.ok ())
  /-- It takes those before one on which it fails, and that one. -/
  | upTo (before : List Event) {after : List Event} {e : Event} {f : Failure}
      (fine : (Action.forEach handler before s).result = .ok ())
      (failed : (handler e (Action.forEach handler before s).state).result = .error f) :
      Takes handler s (before ++ e :: after) (before ++ [e]) (.error f)

/-- One event more before those that are due, which the handler does not fail on. -/
theorem Takes.cons {s : σ} {e : Event} {due handed : List Event} {result : Except Failure Unit}
    (first : (handler e s).result = .ok ())
    (h : Takes handler (handler e s).state due handed result) :
    Takes handler s (e :: due) (e :: handed) result := by
  cases h with
  | all fine =>
    refine .all ?_
    rw [Action.forEach_cons_of_ok first]
    exact fine
  | upTo before fine failed =>
    refine .upTo (e :: before) ?_ ?_ <;> rw [Action.forEach_cons_of_ok first]
    · exact fine
    · exact failed

end Handler

/-! ## Deliveries and redeliveries -/

namespace Watching

variable {σ : Type} {handler : Handler σ}

theorem events_hand (quiet : handler.IsQuiet) (e : Event) (w : Watching σ) :
    (hand handler e w).chronicle.events = [e] := by
  rw [hand_apply]
  exact congrArg (e :: ·) (quiet e w.outside)

/-- A delivery leaves the store a mirror of the events handed over so far, whether the handler fails
or not. -/
theorem mirrors_deliver (quiet : handler.IsQuiet) {w : Watching σ} {past : List Event}
    (h : w.store.Mirrors past) (type body : Value) :
    (deliver handler type body w).state.store.Mirrors
      (past ++ (deliver handler type body w).chronicle.events) := by
  rw [deliver_apply]
  cases hr : w.store.receive type body with
  | accepted store e =>
    obtain ⟨g, -, -, accepted⟩ := Store.acceptance_of_receive hr
    rw [settle_accepted_apply, events_hand quiet]
    exact h.concat accepted
  | dropped r => exact (List.append_nil past).symm ▸ h
  | unkeyed part => exact (List.append_nil past).symm ▸ h
  | ignored type g => exact (List.append_nil past).symm ▸ h

/-- Handing over leaves the store alone. -/
theorem store_forEach_hand (events : List Event) (w : Watching σ) :
    (Action.forEach (hand handler) events w).state.store = w.store :=
  Action.state_forEach (p := fun v : Watching σ => v.store = w.store) (fun _ _ h => h) rfl

/-- What is due is handed over, up to and including what the handler fails on. -/
theorem takes_forEach_hand (quiet : handler.IsQuiet) (due : List Event) (w : Watching σ) :
    handler.Takes w.outside due (Action.forEach (hand handler) due w).chronicle.events
      (Action.forEach (hand handler) due w).result := by
  induction due generalizing w with
  | nil => exact .all rfl
  | cons e rest ih =>
    cases he : (handler e w.outside).result with
    | ok u =>
      have first : (hand handler e w).result = .ok () := he
      simp only [Action.forEach_cons_of_ok first, Chronicle.events_append, events_hand quiet]
      exact (ih (hand handler e w).state).cons he
    | error f =>
      have first : (hand handler e w).result = .error f := he
      simp only [Action.forEach_cons_of_error first, events_hand quiet]
      exact .upTo [] rfl he

/-- A redelivery hands over what the store holds, in order, and leaves the store alone. -/
theorem takes_redeliver (quiet : handler.IsQuiet) (w : Watching σ) :
    (redeliver handler w).state.store = w.store ∧
      handler.Takes w.outside (w.store.groups.map redelivery)
        (redeliver handler w).chronicle.events (redeliver handler w).result := by
  rw [redeliver_apply, ← Action.forEach_map redelivery]
  exact ⟨store_forEach_hand _ w, takes_forEach_hand quiet _ w⟩

/-- A row of tasks leaves the store a mirror of the events that deliveries handed over. -/
theorem mirrors_performAll (quiet : handler.IsQuiet) (tasks : List WatchTask) {w : Watching σ}
    {past : List Event} (h : w.store.Mirrors past) :
    (performAll handler tasks w).1.store.Mirrors (past ++ (performAll handler tasks w).2) := by
  induction tasks generalizing w past with
  | nil => exact (List.append_nil past).symm ▸ h
  | cons task rest ih =>
    cases task with
    | deliver type body =>
      have delivered := ih (mirrors_deliver quiet h type body)
      rw [List.append_assoc] at delivered
      exact delivered
    | redeliver =>
      have kept : (redeliver handler w).state.store.Mirrors past :=
        (takes_redeliver quiet w).1.symm ▸ h
      exact ih kept

/-- **The law of replay.**  After any row of deliveries and redeliveries, whichever calls of the
handler fail, the events that deliveries handed over rebuild the store, entries and order included;
each of them says what was there before it; and no two keys of the store are equal.  A redelivery
from there leaves the store alone and hands over what it holds, in order, all of it or up to and
including the first object that the handler fails on. -/
theorem store_mirrors_deliveries (handler : Handler σ) (quiet : handler.IsQuiet) (outside : σ)
    (tasks : List WatchTask) :
    let reached := performAll handler tasks { outside }
    reached.1.store.Mirrors reached.2 ∧
      (redeliver handler reached.1).state.store = reached.1.store ∧
      handler.Takes reached.1.outside (reached.1.store.groups.map redelivery)
        (redeliver handler reached.1).chronicle.events (redeliver handler reached.1).result := by
  have mirrors := mirrors_performAll quiet tasks (w := { outside }) Store.mirrors_nil
  exact ⟨mirrors, takes_redeliver quiet _⟩

/-- Deliveries about keys that are equal though they look different, a body that is no group, a name
that cannot be kept, a type that changes nothing, and a redelivery between them. -/
def mixedTasks : List WatchTask :=
  [.deliver .null (ServiceGroup.sampleBody (.str "default") (.int 1) (.int 1)),
    .deliver .null (ServiceGroup.sampleBody (.str "default") (.str "web") (.int 1)),
    .deliver (.str "ADDED") (ServiceGroup.sampleBody (.str "default") (.bool true) (.int 2)),
    .deliver (.str "ADDED") (.str "web"), .redeliver,
    .deliver (.str "MODIFIED") (ServiceGroup.sampleBody (.str "default") (.list [.null]) (.int 3)),
    .deliver (.str "BOOKMARK") (ServiceGroup.sampleBody (.str "default") (.str "db") (.int 4)),
    .deliver (.str "MODIFIED") (ServiceGroup.sampleBody (.str "default") (.str "db") (.int 5)),
    .deliver (.str "DELETED") (ServiceGroup.sampleBody (.str "default")
      (.float (.ofRatio false 1 1)) (.int 6))]

/-- The second, the fourth and the last call of the handler fail. -/
def mixedReplies : List (Option Failure) :=
  [none, some (.badValue "second"), none, some (.badValue "fourth"), none, none, none,
    some (.badValue "last")]

theorem mixedTasks_mirrored :
    Handler.rehearsed.IsQuiet ∧
      let reached := performAll .rehearsed mixedTasks { outside := mixedReplies }
      reached.2.map (fun e => (e.kind, e.group.name)) =
        [(.added, .int 1), (.added, .str "web"), (.modified, .bool true), (.added, .str "db"),
          (.deleted, .float (.ofRatio false 1 1))] ∧
      reached.1.store.keys = [⟨.str "default", .str "web"⟩, ⟨.str "default", .str "db"⟩] ∧
      reached.1.store.Mirrors reached.2 ∧
      Handler.rehearsed.Takes reached.1.outside (reached.1.store.groups.map redelivery)
        (reached.1.store.groups.map redelivery) (.error (.badValue "last")) := by
  obtain ⟨mirrors, -, takes⟩ :=
    store_mirrors_deliveries .rehearsed Handler.isQuiet_rehearsed mixedReplies mixedTasks
  exact ⟨Handler.isQuiet_rehearsed, by decide, by decide, mirrors, takes⟩

end Watching

end GroupOperator
