import GroupOperator.Proofs.Replay
import GroupOperator.Watch.Pacing

/-!
# The life of the pacing task

What serving does is what the account of its script says (`Account.Describes`), though the account
knows of no task.  The task shows in two places only.

* It begins a pause when serving begins and one more after every redelivery that is gone through to
  its end, so the pauses are one more than those redeliveries.
* It comes before everything else when serving ends: if it has died of a failure, serving ends in
  that failure, and otherwise as the script has ended.

The proof goes through the script once, happening by happening.  What is carried along is whether
the task pauses, which is what the account calls live.
-/

namespace GroupOperator

/-! ## Handlers that keep out of the pacing -/

/-- A handler that neither hands events over in its turn nor begins pauses. -/
structure Handler.IsDiscreet {σ : Type} (handler : Handler σ) : Prop where
  /-- It hands no events over. -/
  quiet : handler.IsQuiet
  /-- It begins no pauses. -/
  restless : ∀ e s, (handler e s).chronicle.pauses = []

theorem Handler.isDiscreet_ofActivity {σ : Type} (answer : Answering σ)
    (handle : Event → Activity Unit) : (ofActivity answer handle).IsDiscreet where
  quiet := isQuiet_ofActivity answer handle
  restless e s := Activity.pauses_run answer (handle e) s

theorem Handler.isDiscreet_rehearsed : Handler.rehearsed.IsDiscreet where
  quiet := isQuiet_rehearsed
  restless e prepared := by
    rcases prepared with - | ⟨- | f, rest⟩ <;> rfl

namespace Watching

variable {σ : Type} {handler : Handler σ}

theorem pauses_hand (discreet : handler.IsDiscreet) (e : Event) (w : Watching σ) :
    (hand handler e w).chronicle.pauses = [] :=
  discreet.restless e w.outside

theorem pauses_forEach_hand (discreet : handler.IsDiscreet) (events : List Event)
    (w : Watching σ) : (Action.forEach (hand handler) events w).chronicle.pauses = [] := by
  induction events generalizing w with
  | nil => rfl
  | cons e rest ih =>
    cases he : (hand handler e w).result with
    | ok u =>
      rw [Action.forEach_cons_of_ok he, Chronicle.pauses_append, pauses_hand discreet, ih]
      rfl
    | error f =>
      rw [Action.forEach_cons_of_error he]
      exact pauses_hand discreet e w

/-- A watch begins no pauses, whatever it is asked to do. -/
theorem pauses_perform (discreet : handler.IsDiscreet) (task : WatchTask) (w : Watching σ) :
    (perform handler task w).chronicle.pauses = [] := by
  cases task with
  | deliver type body =>
    rw [perform, deliver_apply]
    cases w.store.receive type body with
    | accepted store e => exact pauses_hand discreet e { w with store }
    | dropped _ | unkeyed _ | ignored _ _ => rfl
  | redeliver =>
    rw [perform, redeliver_apply, ← Action.forEach_map redelivery]
    exact pauses_forEach_hand discreet _ w

end Watching

/-! ## Accounts -/

namespace Errand

variable {σ : Type} {handler : Handler σ} {w : Watching σ} {f : Failure}

theorem fatal?_deliver (type object : Value) :
    (⟨.deliver type object, w⟩ : Errand σ).fatal? handler = none := rfl

theorem isCompleted_of_ok (fine : (Watching.redeliver handler w).result = .ok ()) :
    (⟨.redeliver, w⟩ : Errand σ).isCompleted handler = true := by
  simp [isCompleted, outcome, Watching.perform, fine, Except.isOk, Except.toBool]

theorem not_isCompleted_of_error (failed : (Watching.redeliver handler w).result = .error f) :
    (⟨.redeliver, w⟩ : Errand σ).isCompleted handler = false := by
  simp [isCompleted, outcome, Watching.perform, failed, Except.isOk, Except.toBool]

theorem fatal?_of_ok (fine : (Watching.redeliver handler w).result = .ok ()) :
    (⟨.redeliver, w⟩ : Errand σ).fatal? handler = none := by
  simp [fatal?, outcome, Watching.perform, fine]

theorem fatal?_of_error (failed : (Watching.redeliver handler w).result = .error f) :
    (⟨.redeliver, w⟩ : Errand σ).fatal? handler = some f := by
  simp [fatal?, outcome, Watching.perform, failed]

/-- A task dies of redeliveries alone. -/
theorem fatal?_of_ne {e : Errand σ} (other : e.task ≠ .redeliver) : e.fatal? handler = none := by
  rw [fatal?]
  split
  · rename_i task _
    exact absurd task other
  · rfl

end Errand

namespace Account

variable {σ : Type} {handler : Handler σ} {w : Watching σ} {type object : Value} {f : Failure}

theorem completed_after (e : Errand σ) (a : Account σ) :
    (a.after e).completed handler =
      a.completed handler + if e.isCompleted handler then 1 else 0 :=
  List.countP_cons

theorem death?_after (e : Errand σ) (a : Account σ) :
    (a.after e).death? handler = (e.fatal? handler).or (a.death? handler) := by
  rw [death?, after, List.findSome?_cons]
  cases e.fatal? handler <;> rfl

theorem ofScript_of_delivered (live : Bool) (rest : List Happening)
    (fine : (Watching.deliver handler type object w).result = .ok ()) :
    ofScript handler live (.notification type object :: rest) w =
      (ofScript handler live rest (Watching.deliver handler type object w).state).after
        ⟨.deliver type object, w⟩ := by
  rw [ofScript,
    show ((⟨.deliver type object, w⟩ : Errand σ).outcome handler).result = .ok () from fine]
  rfl

theorem ofScript_of_undelivered (live : Bool) (rest : List Happening)
    (failed : (Watching.deliver handler type object w).result = .error f) :
    ofScript handler live (.notification type object :: rest) w =
      ⟨[⟨.deliver type object, w⟩], (Watching.deliver handler type object w).state, .error f⟩ := by
  rw [ofScript,
    show ((⟨.deliver type object, w⟩ : Errand σ).outcome handler).result = .error f from failed]
  rfl

theorem ofScript_tick_of_ok (rest : List Happening)
    (fine : (Watching.redeliver handler w).result = .ok ()) :
    ofScript handler true (.tick :: rest) w =
      (ofScript handler true rest (Watching.redeliver handler w).state).after ⟨.redeliver, w⟩ := by
  rw [ofScript, show ((⟨.redeliver, w⟩ : Errand σ).outcome handler).result = .ok () from fine]
  rfl

theorem ofScript_tick_of_error (rest : List Happening)
    (failed : (Watching.redeliver handler w).result = .error f) :
    ofScript handler true (.tick :: rest) w =
      (ofScript handler false rest (Watching.redeliver handler w).state).after ⟨.redeliver, w⟩ := by
  rw [ofScript, show ((⟨.redeliver, w⟩ : Errand σ).outcome handler).result = .error f from failed]
  rfl

variable (handler)

/-- Where nobody takes the ticks, nothing is redelivered. -/
theorem task_ne_redeliver (script : List Happening) (w : Watching σ) :
    ∀ e ∈ (ofScript handler false script w).errands, e.task ≠ .redeliver := by
  induction script generalizing w with
  | nil => exact nofun
  | cons h rest ih =>
    cases h with
    | notification type object =>
      cases delivered : (Watching.deliver handler type object w).result with
      | ok u =>
        rw [ofScript_of_delivered false rest delivered]
        exact List.forall_mem_cons.mpr ⟨nofun, ih _⟩
      | error f =>
        rw [ofScript_of_undelivered false rest delivered]
        exact List.forall_mem_cons.mpr ⟨nofun, nofun⟩
    | failed f => exact nofun
    | tick | startup | login _ | ready | wait _ | cancel _ | signal _ => exact ih w

/-- Where nobody takes the ticks, nobody dies of one. -/
theorem death?_ofScript_false (script : List Happening) (w : Watching σ) :
    (ofScript handler false script w).death? handler = none := by
  rw [death?, List.findSome?_eq_none_iff]
  exact fun e mem => Errand.fatal?_of_ne (task_ne_redeliver handler script w e mem)

/-- Where nobody takes the ticks, no redelivery is gone through to its end. -/
theorem completed_ofScript_false (script : List Happening) (w : Watching σ) :
    (ofScript handler false script w).completed handler = 0 := by
  rw [completed, List.countP_eq_zero]
  intro e mem completed
  have other := task_ne_redeliver handler script w e mem
  rw [Errand.isCompleted, Bool.and_eq_true, decide_eq_true_eq] at completed
  exact other completed.1

/-- One tick more at the end is one redelivery more, of what the watch has become by then, if there
is a task and it has not died. -/
theorem errands_concat_tick (live : Bool) (before : List Happening) (w : Watching σ)
    (went : (ofScript handler live before w).ending = .ok ()) :
    (ofScript handler live (before ++ [.tick]) w).errands =
      (ofScript handler live before w).errands ++
        (if live = true ∧ (ofScript handler live before w).death? handler = none then
          [⟨.redeliver, (ofScript handler live before w).watching⟩]
        else []) := by
  induction before generalizing live w with
  | nil => cases live <;> rfl
  | cons h rest ih =>
    rw [List.cons_append]
    cases h with
    | notification type object =>
      cases delivered : (Watching.deliver handler type object w).result with
      | ok u =>
        rw [ofScript_of_delivered live _ delivered] at went ⊢
        rw [ofScript_of_delivered live _ delivered, death?_after, Errand.fatal?_deliver,
          Option.none_or]
        exact congrArg (_ :: ·) (ih live _ went)
      | error f =>
        rw [ofScript_of_undelivered live _ delivered] at went
        cases went
    | tick =>
      cases live with
      | false => exact ih false w went
      | true =>
        cases redelivered : (Watching.redeliver handler w).result with
        | ok u =>
          rw [ofScript_tick_of_ok _ redelivered] at went ⊢
          rw [ofScript_tick_of_ok _ redelivered, death?_after, Errand.fatal?_of_ok redelivered,
            Option.none_or]
          exact congrArg (_ :: ·) (ih true _ went)
        | error f =>
          -- the task has died of this tick, so the last one finds nobody
          rw [ofScript_tick_of_error _ redelivered] at went ⊢
          rw [ofScript_tick_of_error _ redelivered, death?_after,
            Errand.fatal?_of_error redelivered]
          exact congrArg (_ :: ·) (ih false _ went)
    | failed f => cases went
    | startup | login _ | ready | wait _ | cancel _ | signal _ => exact ih live w went

/-- The errands of the first part of a script are the first errands. -/
theorem errands_prefix (live : Bool) (before later : List Happening) (w : Watching σ) :
    (ofScript handler live before w).errands <+:
      (ofScript handler live (before ++ later) w).errands := by
  induction before generalizing live w with
  | nil => exact List.nil_prefix
  | cons h rest ih =>
    rw [List.cons_append]
    cases h with
    | notification type object =>
      cases delivered : (Watching.deliver handler type object w).result with
      | ok u =>
        rw [ofScript_of_delivered live _ delivered, ofScript_of_delivered live _ delivered]
        exact List.cons_prefix_cons.mpr ⟨rfl, ih live _⟩
      | error f =>
        rewrite [ofScript_of_undelivered live _ delivered, ofScript_of_undelivered live _ delivered]
        exact List.prefix_rfl
    | tick =>
      cases live with
      | false => exact ih false w
      | true => exact List.cons_prefix_cons.mpr ⟨rfl, ih _ _⟩
    | failed f => exact List.nil_prefix
    | startup | login _ | ready | wait _ | cancel _ | signal _ => exact ih live w

end Account

/-! ## Going through a script -/

namespace Serving

variable {σ : Type} {handler : Handler σ} {w : Watch} {s s' : Serving σ} {a : Account σ}
  {row : Outcome (Serving σ) Unit} {f : Failure}

theorem react_tick_of_ok (pausing : s.pacer = .pausing)
    (fine : (Watching.redeliver handler s.watching).result = .ok ()) :
    react w handler .tick s =
      ⟨.ok (), (Watching.redeliver handler s.watching).chronicle ++
          [.paused w.resyncPeriod, .noticed (.tick true)],
        { s with
          watching := (Watching.redeliver handler s.watching).state, pacer := .pausing }⟩ := by
  simp [react, tick, Action.bind, Action.state, pausing, onWatching, Action.attempt, Action.within,
    fine, pause, Action.emit, Action.update]

theorem react_tick_of_error (pausing : s.pacer = .pausing)
    (failed : (Watching.redeliver handler s.watching).result = .error f) :
    react w handler .tick s =
      ⟨.ok (), (Watching.redeliver handler s.watching).chronicle ++ [.noticed (.tick true)],
        { s with
          watching := (Watching.redeliver handler s.watching).state, pacer := .ended f }⟩ := by
  simp [react, tick, Action.bind, Action.state, pausing, onWatching, Action.attempt, Action.within,
    failed, Action.emit, Action.update]

theorem react_tick_of_idle (idle : s.pacer ≠ .pausing) :
    react w handler .tick s = ⟨.ok (), [.noticed (.tick false)], s⟩ := by
  cases pacer : s.pacer with
  | pausing => exact absurd pacer idle
  | absent | ended f => simp [react, tick, Action.bind, Action.state, pacer, Action.emit]

/-- What going through a script from a state comes to is what an account says. -/
structure Accords (w : Watch) (handler : Handler σ) (s : Serving σ) (a : Account σ)
    (row : Outcome (Serving σ) Unit) : Prop where
  /-- It ends alike. -/
  result : row.result = a.ending
  /-- The watch becomes the same. -/
  watching : row.state.watching = a.watching
  /-- The task is as it was, unless it has died. -/
  pacer : row.state.pacer = (a.death? handler).elim s.pacer .ended
  /-- A pause begins after each redelivery that is gone through to its end. -/
  pauses : row.chronicle.pauses = List.replicate (a.completed handler) w.resyncPeriod
  /-- What is handed over is handed over on errands. -/
  events : row.chronicle.events = a.errands.flatMap fun e => (e.outcome handler).chronicle.events

/-- Something happens in front that is no errand. -/
theorem Accords.aside {h : Happening} {rest : List Happening}
    (accords : Accords w handler (react w handler h s).state a
      (Action.forEach (react w handler) rest (react w handler h s).state))
    (went : (react w handler h s).result = .ok ())
    (pacer : (react w handler h s).state.pacer = s.pacer)
    (pauses : (react w handler h s).chronicle.pauses = [])
    (events : (react w handler h s).chronicle.events = []) :
    Accords w handler s a (Action.forEach (react w handler) (h :: rest) s) := by
  rw [Action.forEach_cons_of_ok went]
  refine ⟨accords.result, accords.watching, pacer ▸ accords.pacer, ?_, ?_⟩
  · rw [Chronicle.pauses_append, pauses]
    exact accords.pauses
  · rw [Chronicle.events_append, events]
    exact accords.events

/-- An errand is done in front. -/
theorem Accords.after (h : Accords w handler s' a row) (e : Errand σ) {c : Chronicle}
    (pacer : (a.death? handler).elim s'.pacer .ended =
      ((e.fatal? handler).or (a.death? handler)).elim s.pacer .ended)
    (pauses : c.pauses = if e.isCompleted handler then [w.resyncPeriod] else [])
    (events : c.events = (e.outcome handler).chronicle.events) :
    Accords w handler s (a.after e) ⟨row.result, c ++ row.chronicle, row.state⟩ where
  result := h.result
  watching := h.watching
  pacer := by
    rw [Account.death?_after, ← pacer]
    exact h.pacer
  pauses := by
    rw [Chronicle.pauses_append, pauses, h.pauses, Account.completed_after]
    split
    · rw [Nat.add_comm, ← List.replicate_append_replicate]
      rfl
    · rfl
  events := by
    rw [Chronicle.events_append, events, h.events]
    rfl

/-- A redelivery is gone through to its end in front. -/
theorem Accords.tick_of_ok {rest : List Happening} (discreet : handler.IsDiscreet)
    (pausing : s.pacer = .pausing)
    (redelivered : (Watching.redeliver handler s.watching).result = .ok ())
    (next : s' = { s with
      watching := (Watching.redeliver handler s.watching).state, pacer := .pausing })
    (accords : Accords w handler s' a (Action.forEach (react w handler) rest s')) :
    Accords w handler s (a.after ⟨.redeliver, s.watching⟩)
      (Action.forEach (react w handler) (.tick :: rest) s) := by
  have went := react_tick_of_ok (w := w) pausing redelivered
  rw [Action.forEach_cons_of_ok (congrArg Outcome.result went), went, ← next]
  refine accords.after ⟨.redeliver, s.watching⟩ ?_ ?_ ?_
  · rw [Errand.fatal?_of_ok redelivered, Option.none_or, next, pausing]
  · have restless : (Watching.redeliver handler s.watching).chronicle.pauses = [] :=
      Watching.pauses_perform discreet .redeliver s.watching
    rw [Chronicle.pauses_append, restless, Errand.isCompleted_of_ok redelivered]
    rfl
  · exact (Chronicle.events_append _ _).trans (List.append_nil _)

/-- The task dies of a redelivery in front, and of nothing that the account tells of what
follows. -/
theorem Accords.tick_of_error {rest : List Happening} (discreet : handler.IsDiscreet)
    (pausing : s.pacer = .pausing)
    (redelivered : (Watching.redeliver handler s.watching).result = .error f)
    (dead : s' = { s with
      watching := (Watching.redeliver handler s.watching).state, pacer := .ended f })
    (alive : a.death? handler = none)
    (accords : Accords w handler s' a (Action.forEach (react w handler) rest s')) :
    Accords w handler s (a.after ⟨.redeliver, s.watching⟩)
      (Action.forEach (react w handler) (.tick :: rest) s) := by
  have went := react_tick_of_error (w := w) pausing redelivered
  rw [Action.forEach_cons_of_ok (congrArg Outcome.result went), went, ← dead]
  refine accords.after ⟨.redeliver, s.watching⟩ ?_ ?_ ?_
  · rw [Errand.fatal?_of_error redelivered, alive, dead]
    rfl
  · have restless : (Watching.redeliver handler s.watching).chronicle.pauses = [] :=
      Watching.pauses_perform discreet .redeliver s.watching
    rw [Chronicle.pauses_append, restless, Errand.not_isCompleted_of_error redelivered]
    rfl
  · exact (Chronicle.events_append _ _).trans (List.append_nil _)

/-- A script is gone through as its account says, if the account is live just when the task
pauses. -/
theorem accords_forEach (discreet : handler.IsDiscreet) (w : Watch) (script : List Happening)
    {live : Bool} {s : Serving σ} (paced : live = true ↔ s.pacer = .pausing) :
    Accords w handler s (.ofScript handler live script s.watching)
      (Action.forEach (react w handler) script s) := by
  induction script generalizing live s with
  | nil => exact ⟨rfl, rfl, rfl, rfl, rfl⟩
  | cons h rest ih =>
    cases h with
    | notification type object =>
      have restless : (Watching.deliver handler type object s.watching).chronicle.pauses = [] :=
        Watching.pauses_perform discreet (.deliver type object) s.watching
      cases delivered : (Watching.deliver handler type object s.watching).result with
      | ok u =>
        have went : (react w handler (.notification type object) s).result = .ok () := delivered
        rw [Action.forEach_cons_of_ok went, Account.ofScript_of_delivered live rest delivered]
        exact (ih (s := (react w handler (.notification type object) s).state) paced).after
          ⟨.deliver type object, s.watching⟩ rfl restless rfl
      | error f =>
        have stopped : (react w handler (.notification type object) s).result = .error f :=
          delivered
        rw [Action.forEach_cons_of_error stopped,
          Account.ofScript_of_undelivered live rest delivered]
        exact ⟨rfl, rfl, rfl, restless, (List.append_nil _).symm⟩
    | tick =>
      cases live with
      | false =>
        have idle : s.pacer ≠ .pausing := fun pausing => nomatch paced.mpr pausing
        have went : react w handler .tick s = ⟨.ok (), [.noticed (.tick false)], s⟩ :=
          react_tick_of_idle idle
        rw [Action.forEach_cons_of_ok (congrArg Outcome.result went), went]
        have accords : Accords w handler s (.ofScript handler false rest s.watching)
          (Action.forEach (react w handler) rest s) := ih paced
        exact ⟨accords.result, accords.watching, accords.pacer, accords.pauses, accords.events⟩
      | true =>
        have pausing : s.pacer = .pausing := paced.mp rfl
        cases redelivered : (Watching.redeliver handler s.watching).result with
        | ok u =>
          rw [Account.ofScript_tick_of_ok rest redelivered]
          exact .tick_of_ok discreet pausing redelivered rfl (ih (iff_of_true rfl rfl))
        | error f =>
          rw [Account.ofScript_tick_of_error rest redelivered]
          exact .tick_of_error discreet pausing redelivered rfl
            (Account.death?_ofScript_false handler rest _) (ih (iff_of_false nofun nofun))
    | failed f => exact ⟨rfl, rfl, rfl, rfl, rfl⟩
    | startup | login _ | ready | wait _ | cancel _ | signal _ =>
      exact Accords.aside (ih paced) rfl rfl rfl rfl

/-! ## Serving -/

/-- What serving comes to, told by an account; `live` says whether there is a pacing task. -/
structure Describes (a : Account σ) (w : Watch) (handler : Handler σ) (live : Bool)
    (served : Outcome (Serving σ) Unit) : Prop where
  /-- The task begins a pause at first, and one more after each redelivery that is gone through to
  its end. -/
  pauses : served.chronicle.pauses =
    if live then List.replicate (1 + a.completed handler) w.resyncPeriod else []
  /-- What is handed over is handed over on errands, one after the other. -/
  events : served.chronicle.events = a.errands.flatMap fun e => (e.outcome handler).chronicle.events
  /-- The watch becomes what the errands make of it. -/
  watching : served.state.watching = a.watching
  /-- A redelivery hands over what is remembered, in order, all of it or up to and including the
  first object that the handler fails on.  Without a task there is none. -/
  redeliveries : ∀ e ∈ a.errands, e.task = .redeliver → live = true ∧
    handler.Takes e.watching.outside (e.watching.store.groups.map Watching.redelivery)
      (e.outcome handler).chronicle.events (e.outcome handler).result
  /-- Serving ends in what the task has died of, and else as the script does. -/
  result : served.result = (a.death? handler).elim a.ending .error
  /-- That is how the script's end is left through cancelling the task and waiting for it. -/
  closing : Completion.ofExcept served.result =
    (Completion.ofExcept a.ending).closedBy served.state.pacer.awaitCancelled.forgiving

/-- Leaving a script through the end of its task is ending in what the task has died of, and else as
the script does. -/
theorem closedBy_awaitCancelled (ending : Except Failure Unit) (pacer : Pacer) :
    (Completion.ofExcept ending).closedBy pacer.awaitCancelled.forgiving =
      .ofExcept (match pacer with
        | .ended f => .error f
        | _ => ending) := by
  cases pacer <;> rfl

/-- So it is ending in what the account says that the task has died of. -/
theorem Accords.ending_eq (h : Accords w handler s a row) (alive : ∀ f, s.pacer ≠ .ended f) :
    (match row.state.pacer with
      | .ended f => .error f
      | _ => row.result) = (a.death? handler).elim a.ending .error := by
  rw [h.pacer]
  cases a.death? handler with
  | some f => rfl
  | none =>
    rw [Option.elim_none, Option.elim_none, ← h.result]
    cases pacer : s.pacer with
    | ended f => exact absurd pacer (alive f)
    | absent | pausing => rfl

/-- Serving from the beginning comes to what the account of its script says. -/
theorem describes_serve (discreet : handler.IsDiscreet) {live : Bool}
    (judged : w.redelivers? = .ok live) (script : List Happening) (watching : Watching σ)
    (lifetime : Lifetime) :
    Describes (.ofScript handler live script watching) w handler live
      (serve w handler script { watching, lifetime }) := by
  let begun : Serving σ := { watching, lifetime, pacer := if live then .pausing else .absent }
  have paced : live = true ↔ begun.pacer = .pausing := by
    cases live <;> simp [begun]
  have alive (f : Failure) : begun.pacer ≠ .ended f := by
    cases live <;> simp [begun]
  have accords : Accords w handler begun (.ofScript handler live script watching)
    (Action.forEach (react w handler) script begun) := accords_forEach discreet w script paced
  have ending := accords.ending_eq alive
  rw [serve_apply_of_ok judged]
  refine ⟨?_, ?_, accords.watching, fun e mem task => ?_, ending, ?_⟩
  · cases live with
    | true =>
      rw [if_pos rfl, Nat.add_comm, List.replicate_succ, ← accords.pauses]
      rfl
    | false =>
      rw [if_neg Bool.false_ne_true, ← List.replicate_zero,
        ← Account.completed_ofScript_false handler script watching, ← accords.pauses]
      rfl
  · cases live <;> exact accords.events
  · cases live with
    | false => exact absurd task (Account.task_ne_redeliver handler script watching e mem)
    | true =>
      refine ⟨rfl, ?_⟩
      rw [Errand.outcome, task]
      exact (Watching.takes_redeliver discreet.quiet e.watching).2
  · rewrite [closedBy_awaitCancelled, ← accords.result]
    rfl

theorem redelivers?_of_number? {period : Number} (counted : w.resyncPeriod.number? = some period) :
    w.redelivers? = .ok period.isPositive := by
  rw [Watch.redelivers?, counted]

/-- **The life of the pacing task.**  A period that is no number lets nothing happen.  Otherwise
serving comes to what the account of its script says, where there is a task just if the period is
greater than zero: one pause more than there are redeliveries gone through to their end, every
redelivery handing over what is remembered up to and including the first object that the handler
fails on, and an end in what the task has died of, or else in that of the script.  Every tick that
serving comes to is one redelivery, of what is remembered at that moment, as long as there is a task
and it has not died of a tick before; and otherwise it is nothing. -/
theorem life_of_pacing_task (discreet : handler.IsDiscreet) (w : Watch) (script : List Happening)
    (watching : Watching σ) (lifetime : Lifetime) :
    (w.resyncPeriod.number? = none →
      serve w handler script { watching, lifetime } =
        ⟨.error (.incomparable ">" w.resyncPeriod), [], { watching, lifetime }⟩) ∧
    ∀ period, w.resyncPeriod.number? = some period →
      let account (script : List Happening) :=
        Account.ofScript handler period.isPositive script watching
      Describes (account script) w handler period.isPositive
        (serve w handler script { watching, lifetime }) ∧
      ∀ before after, script = before ++ .tick :: after → (account before).ending = .ok () →
        (account (before ++ [.tick])).errands = (account before).errands ++
          (if period.isPositive = true ∧ (account before).death? handler = none then
            [⟨.redeliver, (serve w handler before { watching, lifetime }).state.watching⟩]
          else []) ∧
        (account (before ++ [.tick])).errands <+: (account script).errands := by
  refine ⟨fun uncounted => ?_, fun period counted => ?_⟩
  · have unjudged : w.redelivers? = .error (.incomparable ">" w.resyncPeriod) := by
      rw [Watch.redelivers?, uncounted]
    exact serve_apply_of_error unjudged handler script _
  · have judged := redelivers?_of_number? counted
    refine ⟨describes_serve discreet judged script watching lifetime, ?_⟩
    rintro before after rfl went
    refine ⟨?_, ?_⟩
    · rw [(describes_serve discreet judged before watching lifetime).watching]
      exact Account.errands_concat_tick handler _ before watching went
    · have longer :=
        Account.errands_prefix handler period.isPositive (before ++ [.tick]) after watching
      rwa [List.append_assoc] at longer

/-- Two groups arrive; the first tick redelivers both of them, the second fails on the later one,
the third finds the task dead, and then following fails as well. -/
def lethalScript : List Happening :=
  [.startup, .ready,
    .notification .null (ServiceGroup.sampleBody (.str "default") (.str "web") (.int 1)),
    .notification .null (ServiceGroup.sampleBody (.str "default") (.str "db") (.int 2)),
    .tick, .tick,
    .notification (.str "MODIFIED")
      (ServiceGroup.sampleBody (.str "default") (.str "web") (.int 3)),
    .tick, .failed (.transport "reset")]

/-- The sixth call of the handler fails. -/
def lethalReplies : List (Option Failure) :=
  [none, none, none, none, none, some (.badValue "sixth")]

theorem lethalScript_ends :
    Handler.rehearsed.IsDiscreet ∧
      (Value.int 30).number? = some (.int 30) ∧ (Number.int 30).isPositive = true ∧
      (Account.ofScript .rehearsed true lethalScript { outside := lethalReplies }).ending =
        .error (.transport "reset") ∧
      (serve { resyncPeriod := .int 30 } .rehearsed lethalScript
        { watching := { outside := lethalReplies } }).result = .error (.badValue "sixth") ∧
      (serve { resyncPeriod := .int 30 } .rehearsed lethalScript
        { watching := { outside := lethalReplies } }).chronicle.pauses = [.int 30, .int 30] := by
  obtain ⟨-, counted⟩ := life_of_pacing_task Handler.isDiscreet_rehearsed
    { resyncPeriod := .int 30 }
    lethalScript { outside := lethalReplies } {}
  obtain ⟨describes, -⟩ := counted (.int 30) rfl
  exact ⟨Handler.isDiscreet_rehearsed, rfl, rfl, rfl, describes.result, describes.pauses⟩

end Serving

end GroupOperator
