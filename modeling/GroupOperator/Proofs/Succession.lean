import GroupOperator.Proofs.Course
import GroupOperator.Reconciler.Turns
import Mathlib.Data.List.Induction
import Mathlib.Data.List.Nodup

/-!
# Events are handled one after the other

Whoever handles an event works under the lock, and nobody else's step can come in between.  So
however the steps of all sides fall, what has been requested so far is what handling the same events
one after the other requests, in the order in which the lock was taken; at most the last of them is
still under way, and then the last block of requests is not complete yet.

The invariant (`InTurn`) compares the state with that sequential history: what the holder of the
lock has done, put together with what is left of its activity, is the whole handling of its event,
from the state that all before it have left.  An activity is a finite tree, whatever is answered, so
the lock always comes back, and every event can still be handled in the end.
-/

namespace GroupOperator

/-- Whether an event is being handled. -/
def TurnStage.isWorking : TurnStage → Bool
  | .working _ => true
  | _ => false

/-- Whether an event has been handled. -/
def TurnStage.isGone : TurnStage → Bool
  | .gone => true
  | _ => false

namespace Turns

open Reconciler

variable {σ : Type} (home : Value) (answer : Answering σ)

/-! ## The sequential history -/

/-- The state after events have been handled one after the other. -/
def afterAll (turns : List (Nat × Event)) (s : σ) : σ :=
  ((handleAll home (turns.map (·.2))).run answer s).state

/-- What is requested for events that are handled one after the other, block by block, each block
with the one who makes it. -/
def blocks : List (Nat × Event) → σ → List (Nat × List Request)
  | [], _ => []
  | (i, e) :: rest, s =>
    (i, ((handle home e).run answer s).chronicle.requests) ::
      blocks rest ((handle home e).run answer s).state

/-- A block of requests, each with the one who makes it. -/
def signed (block : Nat × List Request) : List (Nat × Request) :=
  block.2.map fun r => (block.1, r)

theorem afterAll_concat (turns : List (Nat × Event)) (i : Nat) (e : Event) (s : σ) :
    afterAll home answer (turns ++ [(i, e)]) s =
      ((handle home e).run answer (afterAll home answer turns s)).state := by
  simp only [afterAll, List.map_append, List.map_cons, List.map_nil, state_handleAll,
    List.foldl_append, List.foldl_cons, List.foldl_nil, state_handle]

theorem afterAll_cons (turns : List (Nat × Event)) (i : Nat) (e : Event) (s : σ) :
    afterAll home answer ((i, e) :: turns) s =
      afterAll home answer turns ((handle home e).run answer s).state := by
  simp only [afterAll, List.map_cons, state_handleAll, List.foldl_cons, state_handle]

theorem blocks_concat (turns : List (Nat × Event)) (i : Nat) (e : Event) (s : σ) :
    blocks home answer (turns ++ [(i, e)]) s = blocks home answer turns s ++
      [(i, ((handle home e).run answer (afterAll home answer turns s)).chronicle.requests)] := by
  induction turns generalizing s with
  | nil => rfl
  | cons turn rest ih =>
    obtain ⟨j, f⟩ := turn
    rw [List.cons_append, blocks, ih, blocks, afterAll_cons, List.cons_append]

theorem callers_blocks (turns : List (Nat × Event)) (s : σ) :
    (blocks home answer turns s).map (·.1) = turns.map (·.1) := by
  induction turns generalizing s with
  | nil => rfl
  | cons turn rest ih =>
    obtain ⟨j, f⟩ := turn
    rw [blocks, List.map_cons, List.map_cons, ih]

/-- Without the names of those who made them, the requests of the blocks are those of the
history. -/
theorem requests_blocks (turns : List (Nat × Event)) (s : σ) :
    ((blocks home answer turns s).flatMap signed).map (·.2) =
      ((handleAll home (turns.map (·.2))).run answer s).chronicle.requests := by
  induction turns generalizing s with
  | nil => rfl
  | cons turn rest ih =>
    obtain ⟨j, f⟩ := turn
    have bare : ∀ block : Nat × List Request, (signed block).map (·.2) = block.2 := by
      intro block
      rw [signed, List.map_map]
      exact List.map_id _
    rw [blocks, List.flatMap_cons, List.map_append, bare, ih, List.map_cons, handleAll,
      Activity.run_bind, Action.bind_apply_of_ok (result_handle answer home s f),
      Chronicle.requests_append]

/-- Where everybody has made one block, the requests of each stand together. -/
theorem filter_infix_of_nodup {rows : List (Nat × List Request)} (nodup : (rows.map (·.1)).Nodup)
    (i : Nat) :
    (rows.flatMap signed).filter (fun made => made.1 = i) <:+: rows.flatMap signed := by
  induction rows with
  | nil => exact List.infix_rfl
  | cons row rest ih =>
    obtain ⟨j, block⟩ := row
    rw [List.map_cons, List.nodup_cons] at nodup
    obtain ⟨fresh, nodup⟩ := nodup
    rw [List.flatMap_cons, List.filter_append]
    by_cases same : j = i
    · subst same
      have all : (signed (j, block)).filter (fun made => made.1 = j) = signed (j, block) := by
        simp [signed]
      have nothing : (rest.flatMap signed).filter (fun made => made.1 = j) = [] := by
        rw [List.filter_eq_nil_iff]
        intro made mem
        obtain ⟨row, hrow, hmade⟩ := List.mem_flatMap.mp mem
        obtain ⟨r, -, rfl⟩ := List.mem_map.mp hmade
        have other : row.1 ≠ j := fun same => fresh (List.mem_map.mpr ⟨row, hrow, same⟩)
        simpa using other
      rw [all, nothing, List.append_nil]
      exact (List.prefix_append _ _).isInfix
    · have nothing : (signed (j, block)).filter (fun made => made.1 = i) = [] := by
        simp [signed, same]
      rw [nothing, List.nil_append]
      exact (ih nodup).trans (List.suffix_append _ _).isInfix

/-! ## The state against the history -/

section

variable {t : Turns σ} {i j : Nat} {e f : Event} {before stage now : TurnStage}

theorem calls_advance_self (h : t.calls[i]? = some (e, before)) :
    (t.advance i e stage).calls[i]? = some (e, stage) := by
  obtain ⟨inside, -⟩ := List.getElem?_eq_some_iff.mp h
  simp [advance, inside]

theorem calls_advance_of_ne (other : i ≠ j) : (t.advance i e stage).calls[j]? = t.calls[j]? := by
  simp [advance, other]

/-- After one of them has come to a stage, all the others are where they were. -/
theorem of_calls_advance (h : t.calls[i]? = some (e, before))
    (found : (t.advance i e stage).calls[j]? = some (f, now)) :
    (j = i ∧ f = e ∧ now = stage) ∨ (j ≠ i ∧ t.calls[j]? = some (f, now)) := by
  by_cases same : i = j
  · subst same
    rw [calls_advance_self h] at found
    cases found
    exact .inl ⟨rfl, rfl, rfl⟩
  · rw [calls_advance_of_ne same] at found
    exact .inr ⟨Ne.symm same, found⟩

/-- The events stay what they are. -/
theorem events_advance (h : t.calls[i]? = some (e, before)) (j : Nat) :
    ((t.advance i e stage).calls[j]?).map Prod.fst = (t.calls[j]?).map Prod.fst := by
  by_cases same : i = j
  · subst same
    rw [calls_advance_self h, h]
    rfl
  · rw [calls_advance_of_ne same]

end

/-- The handling of `e` under the lock, from the state that all before it have left: what was
requested for it is `made`, and `rest` is what is left to do. -/
structure Underway (e : Event) (before now : σ) (made : List Request) (rest : Activity Unit) :
    Prop where
  /-- What was requested and what is going to be make up the whole block. -/
  requests : made ++ (rest.run answer now).chronicle.requests =
    ((handle home e).run answer before).chronicle.requests
  /-- What is left to do leads where the whole leads. -/
  state : (rest.run answer now).state = ((handle home e).run answer before).state

/-- What the state has to do with the history of the events that got the lock, `turns`, the last of
them still being handled if the lock is held. -/
structure InTurn (events : List Event) (world : σ) (turns : List (Nat × Event)) (t : Turns σ) :
    Prop where
  /-- Each of those who got the lock got it once. -/
  nodup : (turns.map (·.1)).Nodup
  /-- They are on record in that order. -/
  entered : turns.map (·.1) = t.entered
  /-- They handle their own events. -/
  own : ∀ turn ∈ turns, events[turn.1]? = some turn.2
  /-- The events stay what they are. -/
  calls : ∀ i : Nat, (t.calls[i]?).map Prod.fst = events[i]?
  /-- Who waits has not got the lock before. -/
  waiting : ∀ i e, t.calls[i]? = some (e, .waiting) → i ∉ t.entered
  /-- Who is through has got it. -/
  gone : ∀ i e, t.calls[i]? = some (e, .gone) → i ∈ t.entered
  /-- Who works holds the lock. -/
  working : ∀ i e rest, t.calls[i]? = some (e, .working rest) → t.holder = some i
  /-- As long as nobody holds the lock, all that was done is the history. -/
  idle : t.holder = none → t.trace = (blocks home answer turns world).flatMap signed ∧
    t.world = afterAll home answer turns world
  /-- Whoever holds the lock works, and is the last of the history. -/
  busy : ∀ i, t.holder = some i → ∃ earlier e rest made, turns = earlier ++ [(i, e)] ∧
    t.calls[i]? = some (e, .working rest) ∧
    t.trace = (blocks home answer earlier world ++ [(i, made)]).flatMap signed ∧
    Underway home answer e (afterAll home answer earlier world) t.world made rest

namespace InTurn

variable {home answer} {events : List Event} {world : σ} {turns : List (Nat × Event)} {t : Turns σ}

theorem start : InTurn home answer events world [] (start events world) where
  nodup := List.nodup_nil
  entered := rfl
  own := nofun
  calls i := by simp [Turns.start, Function.comp_def]
  waiting _ _ _ := List.not_mem_nil
  gone i e h := by simp [Turns.start] at h
  working i e rest h := by simp [Turns.start] at h
  idle _ := ⟨rfl, rfl⟩
  busy := nofun

/-- Somebody gets the lock. -/
theorem enter (h : InTurn home answer events world turns t) {i : Nat} {e : Event}
    (waits : t.calls[i]? = some (e, .waiting)) (free : t.holder = none) :
    InTurn home answer events world (turns ++ [(i, e)])
      { t.advance i e (.working (handle home e)) with
        holder := some i, entered := t.entered ++ [i] } where
  nodup := by
    rw [List.map_append, List.map_cons, List.map_nil, ← List.concat_eq_append, List.nodup_concat]
    refine ⟨?_, h.nodup⟩
    rw [h.entered]
    exact h.waiting i e waits
  entered := by
    rw [List.map_append, h.entered]
    rfl
  own turn mem := by
    rcases List.mem_append.mp mem with before | new
    · exact h.own turn before
    · obtain rfl := List.mem_singleton.mp new
      rw [← h.calls i, waits]
      rfl
  calls j := (events_advance waits j).trans (h.calls j)
  waiting j f now := by
    rcases of_calls_advance waits now with ⟨-, -, other⟩ | ⟨other, before⟩
    · cases other
    · intro mem
      rcases List.mem_append.mp mem with early | new
      · exact h.waiting j f before early
      · exact other (List.mem_singleton.mp new)
  gone j f now := by
    rcases of_calls_advance waits now with ⟨-, -, other⟩ | ⟨-, before⟩
    · cases other
    · exact List.mem_append_left _ (h.gone j f before)
  working j f rest now := by
    rcases of_calls_advance waits now with ⟨rfl, -, -⟩ | ⟨-, before⟩
    · rfl
    · cases (h.working j f rest before).symm.trans free
  idle := nofun
  busy j holds := by
    obtain rfl : i = j := Option.some.inj holds
    obtain ⟨trace, reached⟩ := h.idle free
    refine ⟨turns, e, handle home e, [], rfl, calls_advance_self waits, ?_, ⟨?_, ?_⟩⟩
    · rw [List.flatMap_append, ← trace]
      exact (List.append_nil _).symm
    · rw [List.nil_append, ← reached]
      rfl
    · rw [← reached]
      rfl

/-- The one who holds the lock goes on: it makes requests, comes to another state and has less left
to do. -/
theorem goOn (h : InTurn home answer events world turns t) {i : Nat} {e : Event}
    {rest : Activity Unit} (works : t.calls[i]? = some (e, .working rest)) (next : Activity Unit)
    (made : List Request) (after : σ)
    (requests : made ++ (next.run answer after).chronicle.requests =
      (rest.run answer t.world).chronicle.requests)
    (state : (next.run answer after).state = (rest.run answer t.world).state) :
    InTurn home answer events world turns
      { t.advance i e (.working next) with
        world := after, trace := t.trace ++ signed (i, made) } where
  nodup := h.nodup
  entered := h.entered
  own := h.own
  calls j := (events_advance works j).trans (h.calls j)
  waiting j f now := by
    rcases of_calls_advance works now with ⟨-, -, other⟩ | ⟨-, before⟩
    · cases other
    · exact h.waiting j f before
  gone j f now := by
    rcases of_calls_advance works now with ⟨-, -, other⟩ | ⟨-, before⟩
    · cases other
    · exact h.gone j f before
  working j f left now := by
    rcases of_calls_advance works now with ⟨rfl, -, -⟩ | ⟨-, before⟩
    · exact h.working j e rest works
    · exact h.working j f left before
  idle free := by
    cases (h.working i e rest works).symm.trans free
  busy j holds := by
    obtain rfl : i = j := Option.some.inj ((h.working i e rest works).symm.trans holds)
    obtain ⟨earlier, f, left, done, rfl, now, trace, underway⟩ :=
      h.busy i (h.working i e rest works)
    cases now.symm.trans works
    refine ⟨earlier, e, next, done ++ made, rfl, calls_advance_self works, ?_, ⟨?_, ?_⟩⟩
    · simp [trace, signed]
    · rw [List.append_assoc, requests, underway.requests]
    · rw [state, underway.state]

/-- The one who holds the lock has nothing left to do and gives it back. -/
theorem leave (h : InTurn home answer events world turns t) {i : Nat} {e : Event}
    {rest : Activity Unit} (works : t.calls[i]? = some (e, .working rest))
    (requests : (rest.run answer t.world).chronicle.requests = [])
    (state : (rest.run answer t.world).state = t.world) :
    InTurn home answer events world turns { t.advance i e .gone with holder := none } where
  nodup := h.nodup
  entered := h.entered
  own := h.own
  calls j := (events_advance works j).trans (h.calls j)
  waiting j f now := by
    rcases of_calls_advance works now with ⟨-, -, other⟩ | ⟨-, before⟩
    · cases other
    · exact h.waiting j f before
  gone j f now := by
    rcases of_calls_advance works now with ⟨rfl, -, -⟩ | ⟨-, before⟩
    · obtain ⟨earlier, f, left, done, rfl, -, -, -⟩ := h.busy j (h.working j e rest works)
      have last : j ∈ t.entered := by
        rw [← h.entered, List.map_append]
        exact List.mem_append_right _ (List.mem_singleton_self j)
      exact last
    · exact h.gone j f before
  working j f left now := by
    rcases of_calls_advance works now with ⟨-, -, other⟩ | ⟨other, before⟩
    · cases other
    · have holds := (h.working j f left before).symm.trans (h.working i e rest works)
      exact absurd (Option.some.inj holds) other
  idle _ := by
    obtain ⟨earlier, f, left, done, rfl, now, trace, underway⟩ :=
      h.busy i (h.working i e rest works)
    cases now.symm.trans works
    have whole := underway.requests
    rw [requests, List.append_nil] at whole
    refine ⟨?_, ?_⟩
    · rw [blocks_concat, ← whole]
      exact trace
    · rw [afterAll_concat, ← underway.state, state]
      rfl
  busy := nofun

/-- Every step keeps the state in line with some history. -/
theorem step (h : InTurn home answer events world turns t) (i : Nat) :
    ∃ turns, InTurn home answer events world turns (t.step home answer i) := by
  rw [Turns.step]
  cases call : t.calls[i]? with
  | none => exact ⟨turns, h⟩
  | some c =>
    obtain ⟨e, stage⟩ := c
    cases stage with
    | waiting =>
      by_cases free : t.holder = none
      · simp only [if_pos free]
        exact ⟨_, h.enter call free⟩
      · simp only [if_neg free]
        exact ⟨turns, h⟩
    | gone => exact ⟨turns, h⟩
    | working rest =>
      cases rest with
      | done u => exact ⟨turns, h.leave call rfl rfl⟩
      | raised f => exact ⟨turns, h.leave call rfl rfl⟩
      | note r next =>
        have goesOn := h.goOn call next [] t.world rfl rfl
        rw [signed, List.map_nil, List.append_nil] at goesOn
        exact ⟨turns, goesOn⟩
      | request r next =>
        exact ⟨turns, h.goOn call (next (answer r t.world).1) [r] (answer r t.world).2 rfl rfl⟩

/-- The lock is free exactly if nobody is in the middle of something. -/
theorem holder_eq_none_iff (h : InTurn home answer events world turns t) :
    t.holder = none ↔ ∀ call ∈ t.calls, call.2.isWorking = false := by
  constructor
  · rintro free ⟨e, stage⟩ mem
    obtain ⟨i, found⟩ := List.mem_iff_getElem?.mp mem
    cases stage with
    | waiting => rfl
    | gone => rfl
    | working rest => cases (h.working i e rest found).symm.trans free
  · intro quiet
    cases holds : t.holder with
    | none => rfl
    | some i =>
      obtain ⟨-, e, rest, -, -, works, -, -⟩ := h.busy i holds
      cases quiet _ (List.mem_of_getElem? works)

/-- The requests made for one event stand together. -/
theorem filter_infix (h : InTurn home answer events world turns t) (i : Nat) :
    t.trace.filter (fun made => made.1 = i) <:+: t.trace := by
  cases holds : t.holder with
  | none =>
    rw [(h.idle holds).1]
    refine filter_infix_of_nodup ?_ i
    rw [callers_blocks]
    exact h.nodup
  | some j =>
    obtain ⟨earlier, e, rest, made, rfl, -, trace, -⟩ := h.busy j holds
    rw [trace]
    refine filter_infix_of_nodup ?_ i
    rw [List.map_append, callers_blocks]
    have nodup := h.nodup
    rw [List.map_append] at nodup
    exact nodup

end InTurn

/-- Whatever steps are taken, the state is in line with some history. -/
theorem inTurn_run (events : List Event) (world : σ) (order : List Nat) :
    ∃ turns, InTurn home answer events world turns
      ((Turns.start events world).run home answer order) := by
  induction order using List.reverseRecOn with
  | nil => exact ⟨[], .start⟩
  | append_singleton order i ih =>
    obtain ⟨turns, inTurn⟩ := ih
    rw [run, List.foldl_append]
    exact inTurn.step i

/-! ## The lock comes back -/

theorem run_append (t : Turns σ) (first second : List Nat) :
    t.run home answer (first ++ second) = (t.run home answer first).run home answer second := by
  rw [run, List.foldl_append, run, run]

/-- Whoever holds the lock comes to the end of what it has left to do, however requests are
answered, and nobody else has moved then. -/
theorem exists_leave (rest : Activity Unit) (t : Turns σ) {i : Nat} {e : Event}
    (works : t.calls[i]? = some (e, .working rest)) :
    ∃ more, (t.run home answer more).holder = none ∧
      (t.run home answer more).calls = (t.advance i e .gone).calls := by
  -- What is left to do is a finite tree, and a step goes down one branch of it.
  induction rest generalizing t with
  | done u =>
    refine ⟨[i], ?_⟩
    simp only [run, List.foldl_cons, List.foldl_nil, step, works, work]
    exact ⟨trivial, trivial⟩
  | raised f =>
    refine ⟨[i], ?_⟩
    simp only [run, List.foldl_cons, List.foldl_nil, step, works, work]
    exact ⟨trivial, trivial⟩
  | note r next ih =>
    obtain ⟨more, free, calls⟩ := ih (t.step home answer i) (by
      simp only [step, works, work]
      exact calls_advance_self works)
    refine ⟨i :: more, free, ?_⟩
    rw [run, List.foldl_cons]
    rw [run] at calls
    rw [calls]
    simp [step, works, work, advance]
  | request r next ih =>
    obtain ⟨more, free, calls⟩ := ih (answer r t.world).1 (t.step home answer i) (by
      simp only [step, works, work]
      exact calls_advance_self works)
    refine ⟨i :: more, free, ?_⟩
    rw [run, List.foldl_cons]
    rw [run] at calls
    rw [calls]
    simp [step, works, work, advance]

/-- Every event can still be handled, whatever has happened: the lock comes back, and then the
others get it, one after the other. -/
theorem exists_through (events : List Event) (world : σ) (order : List Nat) {n : Nat}
    (inside : n ≤ events.length) :
    ∃ more, ((start events world).run home answer (order ++ more)).holder = none ∧
      ∀ j < n, ∃ e, ((start events world).run home answer (order ++ more)).calls[j]? =
        some (e, .gone) := by
  -- The lock is free whenever one more of them is through, so the next one can have it.
  induction n with
  | zero =>
    obtain ⟨turns, inTurn⟩ := inTurn_run home answer events world order
    cases holds : ((start events world).run home answer order).holder with
    | none =>
      refine ⟨[], ?_, nofun⟩
      rw [List.append_nil]
      exact holds
    | some i =>
      obtain ⟨-, e, rest, -, -, works, -, -⟩ := inTurn.busy i holds
      obtain ⟨more, free, -⟩ := exists_leave home answer rest _ works
      refine ⟨more, ?_, nofun⟩
      rw [run_append]
      exact free
  | succ n ih =>
    obtain ⟨more, free, through⟩ := ih (by omega)
    obtain ⟨turns, inTurn⟩ := inTurn_run home answer events world (order ++ more)
    generalize reached : (start events world).run home answer (order ++ more) = t at *
    obtain ⟨⟨e, stage⟩, call⟩ : ∃ call, t.calls[n]? = some call := by
      have known : events[n]? = some events[n] := List.getElem?_eq_getElem (by omega)
      obtain ⟨call, found, -⟩ := Option.map_eq_some_iff.mp ((inTurn.calls n).trans known)
      exact ⟨call, found⟩
    cases stage with
    | working rest => cases (inTurn.working n e rest call).symm.trans free
    | gone =>
      refine ⟨more, ?_, ?_⟩
      · rw [reached]
        exact free
      · rw [reached]
        intro j less
        rcases Nat.lt_succ_iff_lt_or_eq.mp less with before | rfl
        · exact through j before
        · exact ⟨e, call⟩
    | waiting =>
      have works : (t.step home answer n).calls[n]? = some (e, .working (handle home e)) := by
        simp only [step, call, if_pos free]
        exact calls_advance_self call
      obtain ⟨rest, left, calls⟩ := exists_leave home answer (handle home e) _ works
      have gone : ((t.step home answer n).run home answer rest).calls =
          (t.advance n e .gone).calls := by
        rw [calls]
        simp [step, call, free, advance]
      refine ⟨more ++ n :: rest, ?_, ?_⟩
      · rw [← List.append_assoc, run_append, reached]
        exact left
      · rw [← List.append_assoc, run_append, reached]
        intro j less
        rw [run, List.foldl_cons, ← run, gone]
        rcases Nat.lt_succ_iff_lt_or_eq.mp less with before | rfl
        · rw [calls_advance_of_ne (by omega)]
          exact through j before
        · exact ⟨e, calls_advance_self call⟩

/-! ## The main result -/

/-- **Handlers take turns.**  Let any number of events be handled side by side, requests being
answered in any way, and let the steps of all sides have fallen as they may.  There is one history:
those who got the lock, each once, in that order, with their own events.  The lock is free exactly
if nobody is in the middle of something, and then what was requested is one complete block after
another, each made by one of them, which is what handling that history requests, and the state is
the one in which that ends.  If somebody holds the lock, then it is the last of the history, and
only its block may lack an end.  At any time the requests of each stand together, whoever is through
got the lock, and every event can still be handled to its end. -/
theorem handlers_take_turns (events : List Event) (world : σ) (order : List Nat) :
    ∃ turns : List (Nat × Event),
      turns.map (·.1) = ((start events world).run home answer order).entered ∧
      (turns.map (·.1)).Nodup ∧ (∀ turn ∈ turns, events[turn.1]? = some turn.2) ∧
      (((start events world).run home answer order).holder = none ↔
        ∀ call ∈ ((start events world).run home answer order).calls, call.2.isWorking = false) ∧
      (((start events world).run home answer order).holder = none →
        ((start events world).run home answer order).trace =
          (blocks home answer turns world).flatMap signed ∧
        ((start events world).run home answer order).trace.map (·.2) =
          ((handleAll home (turns.map (·.2))).run answer world).chronicle.requests ∧
        ((start events world).run home answer order).world =
          ((handleAll home (turns.map (·.2))).run answer world).state) ∧
      (∀ i, ((start events world).run home answer order).holder = some i →
        ∃ earlier e made left, turns = earlier ++ [(i, e)] ∧
          blocks home answer turns world =
            blocks home answer earlier world ++ [(i, made ++ left)] ∧
          ((start events world).run home answer order).trace =
            (blocks home answer earlier world ++ [(i, made)]).flatMap signed) ∧
      (∀ i, ((start events world).run home answer order).trace.filter (fun made => made.1 = i) <:+:
        ((start events world).run home answer order).trace) ∧
      (∀ i e, ((start events world).run home answer order).calls[i]? = some (e, .gone) →
        i ∈ turns.map (·.1)) ∧
      ∃ more, ∀ call ∈ ((start events world).run home answer (order ++ more)).calls,
        call.2.isGone = true := by
  obtain ⟨turns, inTurn⟩ := inTurn_run home answer events world order
  obtain ⟨more, -, through⟩ := exists_through home answer events world order (Nat.le_refl _)
  -- Of the state in which all are through nothing is needed but that nobody was lost.
  obtain ⟨_, after⟩ := inTurn_run home answer events world (order ++ more)
  generalize (start events world).run home answer order = t at *
  generalize reached : (start events world).run home answer (order ++ more) = last at *
  refine ⟨turns, inTurn.entered, inTurn.nodup, inTurn.own, inTurn.holder_eq_none_iff, ?_, ?_, ?_,
    ?_, more, ?_⟩
  · intro free
    obtain ⟨trace, reached⟩ := inTurn.idle free
    refine ⟨trace, ?_, reached⟩
    rw [trace, requests_blocks]
  · intro i holds
    obtain ⟨earlier, e, rest, made, rfl, -, trace, underway⟩ := inTurn.busy i holds
    refine ⟨earlier, e, made, (rest.run answer t.world).chronicle.requests, rfl, ?_, trace⟩
    rw [blocks_concat, underway.requests]
  · exact inTurn.filter_infix
  · intro i e gone
    rw [inTurn.entered]
    exact inTurn.gone i e gone
  · intro call mem
    rw [reached] at mem
    obtain ⟨j, found⟩ := List.mem_iff_getElem?.mp mem
    have known := after.calls j
    rw [found, Option.map_some] at known
    obtain ⟨inside, -⟩ := List.getElem?_eq_some_iff.mp known.symm
    obtain ⟨e, gone⟩ := through j inside
    obtain rfl := Option.some.inj (found.symm.trans gone)
    rfl

/-- A group is added and deleted again, and those who handle the two events move alternately, so
many times each. -/
def crossing (moves : Nat) : Turns Cluster :=
  (start [.sample .added "default" "web" 1, .sample .deleted "default" "web" 1] .empty).run
    (.str "default") Cluster.answer (List.replicate moves [0, 1]).flatten

/-- After four moves each, the addition is halfway through and the deletion waits.  After twelve
both are over, and the deletion has come after all that the addition requests. -/
theorem crossing_in_turn :
    (crossing 4).holder = some 0 ∧ (crossing 4).trace.map (·.1) = [0] ∧
    (∃ earlier e made left, [0] = (earlier ++ [(0, e)]).map (·.1) ∧
      (crossing 4).trace =
        (blocks (.str "default") Cluster.answer earlier .empty ++ [(0, made)]).flatMap signed ∧
      blocks (.str "default") Cluster.answer (earlier ++ [(0, e)]) .empty =
        blocks (.str "default") Cluster.answer earlier .empty ++ [(0, made ++ left)]) ∧
    (crossing 12).holder = none ∧ (crossing 12).trace.map (·.1) = [0, 0, 1] ∧
    ∃ turns : List (Nat × Event), turns.map (·.1) = [0, 1] ∧
      (crossing 12).trace.map (·.2) = ((handleAll (.str "default") (turns.map (·.2))).run
        Cluster.answer .empty).chronicle.requests := by
  have held : (crossing 4).holder = some 0 := by decide
  have free : (crossing 12).holder = none := by decide
  have early : (crossing 4).entered = [0] := by decide
  have late : (crossing 12).entered = [0, 1] := by decide
  obtain ⟨_, first, -, -, -, -, busy, -⟩ := handlers_take_turns (.str "default") Cluster.answer
    [.sample .added "default" "web" 1, .sample .deleted "default" "web" 1] .empty
    (List.replicate 4 [0, 1]).flatten
  obtain ⟨turns, second, -, -, -, idle, -⟩ := handlers_take_turns (.str "default") Cluster.answer
    [.sample .added "default" "web" 1, .sample .deleted "default" "web" 1] .empty
    (List.replicate 12 [0, 1]).flatten
  obtain ⟨earlier, e, made, left, rfl, block, trace⟩ := busy 0 held
  obtain ⟨-, requests, -⟩ := idle free
  exact ⟨held, by decide, ⟨earlier, e, made, left, early.symm.trans first.symm, trace, block⟩, free,
    by decide, turns, second.trans late, requests⟩

end Turns

end GroupOperator
