import GroupOperator.Lifetime.Observation

/-!
# The first to end a lifetime wins

However many want to end a lifetime, and however their steps fall, the one who gets the lock first
says why it ended.  What everything hangs on is the order of his two writes, the reason before the
flag, and that the flag is looked at under the lock:

* as long as the flag is down, nobody but the one who holds the lock has ever held it, so nobody
  else can have written a reason;
* once the flag is up, whoever gets the lock finds it up and writes nothing.

What a caller can rely on is told stage by stage (`Contention.Relies`).  Only the one who holds the
lock relies on anything, so a step of his leaves nobody else to be asked (`Orderly.relies_advance`).
Whenever nobody holds the lock, the steps have come to what the calls would have made of the
lifetime one after the other (`Contention.lifetime_of_unheld`).

Readers take no lock, but who has seen the flag up cannot look at the reason before it is written
for good.
-/

namespace GroupOperator

/-- Whether a call has the lock, at that stage. -/
def CancelStage.holds : CancelStage → Bool
  | .inside | .writing | .raising | .leaving => true
  | .outside | .gone => false

namespace Contention

variable {reasons : List Reason} {c c' : Contention} {i j : Nat} {call other : CancelCall}
  {stage : CancelStage}

/-! ## One call comes to a stage -/

/-- Nobody has done anything at first. -/
theorem stage_of_start (h : (start reasons).calls[i]? = some call) : call.stage = .outside := by
  obtain ⟨reason, -, rfl⟩ := List.mem_map.mp (List.mem_of_getElem? h)
  rfl

theorem calls_advance_self (h : c.calls[i]? = some call) :
    (c.advance i call stage).calls[i]? = some { call with stage } := by
  obtain ⟨inside, -⟩ := List.getElem?_eq_some_iff.mp h
  simp [advance, inside]

/-- After one call has come to a stage, all the others are where they were. -/
theorem of_calls_advance (h : c.calls[i]? = some call)
    (found : (c.advance i call stage).calls[j]? = some other) :
    (j = i ∧ other = { call with stage }) ∨ (j ≠ i ∧ c.calls[j]? = some other) := by
  by_cases same : i = j
  · subst same
    rw [calls_advance_self h] at found
    exact .inl ⟨rfl, (Option.some.inj found).symm⟩
  · have unchanged : (c.advance i call stage).calls[j]? = c.calls[j]? := by
      simp [advance, same]
    rw [unchanged] at found
    exact .inr ⟨Ne.symm same, found⟩

/-- The callers keep to their reasons. -/
theorem reason_advance (h : c.calls[i]? = some call) (j : Nat) :
    ((c.advance i call stage).calls[j]?).map (·.reason) = (c.calls[j]?).map (·.reason) := by
  by_cases same : i = j
  · subst same
    rw [calls_advance_self h, h]
    rfl
  · simp [advance, same]

/-! ## What a caller relies on -/

/-- What a caller can rely on at the stage that its call has come to. -/
def Relies (c : Contention) (i : Nat) (call : CancelCall) : Prop :=
  match call.stage with
  | .outside | .gone => True
  | .inside => c.holder = some i
  | .writing => c.holder = some i ∧ c.lifetime.flag = false
  | .raising =>
    c.holder = some i ∧ c.lifetime.flag = false ∧ c.lifetime.reason = call.reason
  | .leaving => c.holder = some i ∧ c.lifetime.flag = true

theorem Relies.holder_eq (h : c.Relies i call) (holds : call.stage.holds = true) :
    c.holder = some i := by
  rw [Relies] at h
  cases at_ : call.stage with
  | outside | gone =>
    rw [at_] at holds
    cases holds
  | inside =>
    rw [at_] at h
    exact h
  | writing | raising | leaving =>
    rw [at_] at h
    exact h.1

/-- Who has not got the lock relies on nothing. -/
theorem relies_of_not_holds (h : call.stage.holds = false) : c.Relies i call := by
  rw [Relies]
  cases at_ : call.stage with
  | outside | gone => trivial
  | inside | writing | raising | leaving =>
    rw [at_] at h
    cases h

/-! ## What every step keeps -/

/-- The state of a contention, as it is after any steps. -/
structure Orderly (reasons : List Reason) (c : Contention) : Prop where
  /-- The callers keep to their reasons. -/
  calls : ∀ i : Nat, (c.calls[i]?).map (·.reason) = reasons[i]?
  /-- What the callers rely on is so. -/
  relies : ∀ (i : Nat) (call : CancelCall), c.calls[i]? = some call → c.Relies i call
  /-- As long as the flag is down, nobody has got the lock but the one who holds it. -/
  down : c.lifetime.flag = false → c.entered = c.holder.toList
  /-- As long as the flag is down and nobody holds the lock, the lifetime is untouched. -/
  untouched : c.lifetime.flag = false → c.holder = none → c.lifetime = {}
  /-- Once the flag is up, the reason is that of the first who got the lock. -/
  up : c.lifetime.flag = true →
    ∃ i, c.entered.head? = some i ∧ reasons[i]? = some c.lifetime.reason

namespace Orderly

theorem start (reasons : List Reason) : Orderly reasons (start reasons) where
  calls i := by simp [Contention.start, Function.comp_def]
  relies i call found := relies_of_not_holds (by rw [stage_of_start found]; rfl)
  down _ := rfl
  untouched _ _ := rfl
  up := nofun

/-- One who has got the lock, or can get it, comes to a stage.  He is the only one who relies on
anything, so the others need not be asked. -/
theorem relies_advance (h : Orderly reasons c) (hi : c.calls[i]? = some call)
    (free : ∀ j, c.holder = some j → j = i) (calls : c'.calls = (c.advance i call stage).calls)
    (own : c'.Relies i { call with stage }) :
    ∀ (j : Nat) (other : CancelCall), c'.calls[j]? = some other → c'.Relies j other := by
  intro j other found
  rw [calls] at found
  rcases of_calls_advance hi found with ⟨rfl, rfl⟩ | ⟨apart, before⟩
  · exact own
  · refine relies_of_not_holds (Bool.eq_false_iff.mpr fun holds => apart (free j ?_))
    exact (h.relies j other before).holder_eq holds

/-- What a caller relies on at its stage. -/
theorem relies_at (h : Orderly reasons c) (hi : c.calls[i]? = some call)
    (at_ : call.stage = stage) : c.Relies i { call with stage } := by
  subst at_
  exact h.relies i call hi

/-- Nobody but the holder holds the lock. -/
theorem eq_of_held (held : c.holder = some i) : ∀ j, c.holder = some j → j = i :=
  fun _ also => Option.some.inj (also.symm.trans held)

/-- Somebody gets the lock. -/
theorem enter (h : Orderly reasons c) (hi : c.calls[i]? = some call) (free : c.holder = none) :
    Orderly reasons
      { c.advance i call .inside with holder := some i, entered := c.entered ++ [i] } where
  calls j := (reason_advance hi j).trans (h.calls j)
  relies := h.relies_advance hi (fun _ held => nomatch free.symm.trans held) rfl rfl
  down low := by
    rw [h.down low, free]
    rfl
  untouched := nofun
  up high := by
    obtain ⟨first, head, given⟩ := h.up high
    refine ⟨first, ?_, given⟩
    rw [List.head?_append, head]
    rfl

/-- The one who holds the lock looks at the flag. -/
theorem look (h : Orderly reasons c) (hi : c.calls[i]? = some call)
    (inside : call.stage = .inside) :
    Orderly reasons (c.advance i call (if c.lifetime.flag then .leaving else .writing)) where
  calls j := (reason_advance hi j).trans (h.calls j)
  relies := by
    have held : c.holder = some i := h.relies_at hi inside
    refine h.relies_advance hi (eq_of_held held) rfl ?_
    cases flag : c.lifetime.flag with
    | true => exact ⟨held, flag⟩
    | false => exact ⟨held, flag⟩
  down := h.down
  untouched := h.untouched
  up := h.up

/-- The one who holds the lock writes its reason. -/
theorem write (h : Orderly reasons c) (hi : c.calls[i]? = some call)
    (writes : call.stage = .writing) :
    Orderly reasons
      { c.advance i call .raising with lifetime := { c.lifetime with reason := call.reason } } := by
  obtain ⟨held, low⟩ := h.relies_at hi writes
  refine ⟨fun j => (reason_advance hi j).trans (h.calls j), ?_, h.down, fun _ free => ?_,
    fun high => ?_⟩
  · exact h.relies_advance hi (eq_of_held held) rfl ⟨held, low, rfl⟩
  · cases held.symm.trans free
  · cases low.symm.trans high

/-- The one who holds the lock raises the flag.  It was down until now, so nobody else has ever got
the lock. -/
theorem raise (h : Orderly reasons c) (hi : c.calls[i]? = some call)
    (raises : call.stage = .raising) :
    Orderly reasons
      { c.advance i call .leaving with lifetime := { c.lifetime with flag := true } } := by
  obtain ⟨held, low, written⟩ := h.relies_at hi raises
  refine ⟨fun j => (reason_advance hi j).trans (h.calls j), ?_, nofun, nofun,
    fun _ => ⟨i, ?_, ?_⟩⟩
  · exact h.relies_advance hi (eq_of_held held) rfl ⟨held, rfl⟩
  · have alone : c.entered = [i] := by
      rw [h.down low, held]
      rfl
    exact congrArg List.head? alone
  · have given : reasons[i]? = some call.reason := by
      rw [← h.calls i, hi]
      rfl
    exact given.trans (congrArg some written.symm)

/-- The one who holds the lock gives it back. -/
theorem leave (h : Orderly reasons c) (hi : c.calls[i]? = some call)
    (leaves : call.stage = .leaving) :
    Orderly reasons { c.advance i call .gone with holder := none } := by
  obtain ⟨held, high⟩ := h.relies_at hi leaves
  refine ⟨fun j => (reason_advance hi j).trans (h.calls j), ?_, fun low => ?_, fun low => ?_, h.up⟩
  · exact h.relies_advance hi (eq_of_held held) rfl trivial
  · cases low.symm.trans high
  · cases low.symm.trans high

/-- Every step keeps order. -/
theorem step (h : Orderly reasons c) (i : Nat) : Orderly reasons (c.step i) := by
  rw [Contention.step]
  cases hi : c.calls[i]? with
  | none => exact h
  | some call =>
    dsimp only [stepCall]
    cases at_ : call.stage with
    | outside =>
      dsimp only
      split
      · rename_i free
        exact h.enter hi free
      · exact h
    | inside => exact h.look hi at_
    | writing => exact h.write hi at_
    | raising => exact h.raise hi at_
    | leaving => exact h.leave hi at_
    | gone => exact h

/-- Once the flag is up, no step changes the lifetime. -/
theorem lifetime_step (h : Orderly reasons c) (high : c.lifetime.flag = true) (i : Nat) :
    (c.step i).lifetime = c.lifetime := by
  rw [Contention.step]
  cases hi : c.calls[i]? with
  | none => rfl
  | some call =>
    dsimp only [stepCall]
    cases at_ : call.stage with
    | outside =>
      dsimp only
      split <;> rfl
    | writing => cases high.symm.trans (h.relies_at hi at_).2
    | raising => cases high.symm.trans (h.relies_at hi at_).2.1
    | inside | leaving | gone => rfl

theorem run (h : Orderly reasons c) (order : List Nat) : Orderly reasons (c.run order) := by
  induction order generalizing c with
  | nil => exact h
  | cons i order ih => exact ih (h.step i)

end Orderly

/-! ## One after the other -/

/-- A lifetime that is over can be ended as often as one likes. -/
theorem foldl_cancel_of_isOver {l : Lifetime} (past : l.isOver = true) (later : List Reason) :
    later.foldl (fun l r => l.cancel r) l = l := by
  induction later with
  | nil => rfl
  | cons r later ih => rw [List.foldl_cons, Lifetime.cancel_of_isOver past, ih]

/-- **Whatever the steps, whenever nobody holds the lock, the lifetime is what the calls so far make
of it one after the other, in the order in which they got the lock.** -/
theorem lifetime_of_unheld (reasons : List Reason) (order : List Nat)
    (free : ((start reasons).run order).holder = none) :
    ((start reasons).run order).lifetime =
      (((start reasons).run order).entered.filterMap (reasons[·]?)).foldl
        (fun l r => l.cancel r) {} := by
  have orderly : Orderly reasons ((start reasons).run order) := (Orderly.start reasons).run order
  generalize (start reasons).run order = c at free orderly
  cases flag : c.lifetime.flag with
  | false =>
    rw [orderly.untouched flag free, orderly.down flag, free]
    rfl
  | true =>
    obtain ⟨first, head, given⟩ := orderly.up flag
    obtain ⟨later, entered⟩ := List.head?_eq_some_iff.mp head
    have ended : c.lifetime = ⟨true, c.lifetime.reason⟩ := congrArg (Lifetime.mk · _) flag
    rw [entered, List.filterMap_cons_some given, List.foldl_cons]
    exact ended.trans (foldl_cancel_of_isOver rfl _).symm

end Contention

/-! ## Readers -/

namespace Observation

variable {reasons : List Reason} {o : Observation}

/-- What readers have seen, held against the lifetime as it stands. -/
structure Faithful (reasons : List Reason) (o : Observation) : Prop where
  /-- The callers keep order. -/
  orderly : o.contention.Orderly reasons
  /-- What tells the end is true. -/
  told : ∀ (m j : Nat) (seen : Sight), o.sights[m]? = some (j, seen) → seen.tellsEnd = true →
    o.lifetime.isOver = true
  /-- After that, the reason seen is the one that stands. -/
  agreed : ∀ (m n j k : Nat) (seen : Sight) (r : Reason), m < n → o.sights[m]? = some (j, seen) →
    seen.tellsEnd = true → o.sights[n]? = some (k, .reason r) → r = o.lifetime.reason

/-- What has been seen was seen before or is the last sight. -/
theorem of_see {reader m : Nat} {sight : Sight} {entry : Nat × Sight}
    (found : (o.see reader sight).sights[m]? = some entry) :
    o.sights[m]? = some entry ∨ (m = o.sights.length ∧ entry = (reader, sight)) := by
  rw [see, List.getElem?_append] at found
  split at found
  · exact .inl found
  · rename_i late
    obtain ⟨first, same⟩ := List.getElem?_eq_some_iff.mp found
    rw [List.length_singleton] at first
    refine .inr ⟨by omega, ?_⟩
    rw [← same, List.getElem_singleton]

namespace Faithful

theorem start (reasons : List Reason) : Faithful reasons (start reasons) where
  orderly := .start reasons
  told m j seen found := by simp [Observation.start] at found
  agreed m n j k seen r _ found := by simp [Observation.start] at found

/-- A caller goes on. -/
theorem call (h : Faithful reasons o) (caller : Nat) :
    Faithful reasons { o with contention := o.contention.step caller } where
  orderly := h.orderly.step caller
  told m j seen found tells := Contention.flag_step caller (h.told m j seen found tells)
  agreed m n j k seen r before found tells later := by
    have stays : (o.contention.step caller).lifetime = o.lifetime :=
      h.orderly.lifetime_step (h.told m j seen found tells) caller
    exact (h.agreed m n j k seen r before found tells later).trans
      (congrArg Lifetime.reason stays.symm)

/-- A reader sees what is the case. -/
theorem see (h : Faithful reasons o) (reader : Nat) {sight : Sight}
    (tells : sight.tellsEnd = true → o.lifetime.isOver = true)
    (reason : ∀ r, sight = .reason r → r = o.lifetime.reason) :
    Faithful reasons (o.see reader sight) where
  orderly := h.orderly
  told m j seen found ends := by
    rcases of_see found with before | ⟨-, new⟩
    · exact h.told m j seen before ends
    · cases new
      exact tells ends
  agreed m n j k seen r order found ends later := by
    rcases of_see later with earlier | ⟨last, new⟩
    · -- both sights are old ones
      have short : n < o.sights.length := (List.getElem?_eq_some_iff.mp earlier).1
      rcases of_see found with before | ⟨late, -⟩
      · exact h.agreed m n j k seen r order before ends earlier
      · omega
    · cases new
      exact reason r rfl

/-- Every step keeps to what has been seen. -/
theorem step (h : Faithful reasons o) (m : ObservationStep) : Faithful reasons (o.step m) := by
  cases m with
  | call caller => exact h.call caller
  | askOver reader => exact h.see reader id nofun
  | askReason reader => exact h.see reader nofun fun r same => (Sight.reason.inj same).symm
  | wake reader =>
    rw [Observation.step]
    split
    · rename_i past
      exact h.see reader (fun _ => past) nofun
    · exact h
  | timeOut reader => exact h.see reader nofun nofun

theorem run (h : Faithful reasons o) (steps : List ObservationStep) :
    Faithful reasons (o.run steps) := by
  induction steps generalizing o with
  | nil => exact h
  | cons m rest ih => exact ih (h.step m)

/-- Once it is over, the lifetime stays as it is. -/
theorem lifetime_run (h : Faithful reasons o) (past : o.lifetime.isOver = true)
    (later : List ObservationStep) : (o.run later).lifetime = o.lifetime := by
  induction later generalizing o with
  | nil => rfl
  | cons m rest ih =>
    have stays : (o.step m).lifetime = o.lifetime := by
      cases m with
      | call caller => exact h.orderly.lifetime_step past caller
      | wake reader =>
        rw [Observation.step]
        split <;> rfl
      | askOver reader | askReason reader | timeOut reader => rfl
    exact (ih (h.step m) (stays ▸ past)).trans stays

end Faithful

/-- **The first to end a lifetime wins.**  After any steps of any callers and readers: a lifetime
that is over stays as it is, flag and reason, whatever follows; its reason is the one given by the
first caller that got the lock; and who has seen the end, in a wait that came back or by asking,
sees from then on just that reason, as does everybody who looks after him. -/
theorem first_cancel_wins (reasons : List Reason) (steps : List ObservationStep) :
    ((run (start reasons) steps).lifetime.isOver = true →
      (∀ later, (run (start reasons) (steps ++ later)).lifetime =
        (run (start reasons) steps).lifetime) ∧
      ∃ first, (run (start reasons) steps).contention.entered.head? = some first ∧
        reasons[first]? = some (run (start reasons) steps).lifetime.reason) ∧
    ∀ (m n j k : Nat) (seen : Sight) (r : Reason), m < n →
      (run (start reasons) steps).sights[m]? = some (j, seen) → seen.tellsEnd = true →
      (run (start reasons) steps).sights[n]? = some (k, .reason r) →
      (run (start reasons) steps).lifetime = ⟨true, r⟩ := by
  have faithful : Faithful reasons (run (start reasons) steps) := (Faithful.start reasons).run steps
  refine ⟨fun past => ⟨fun later => ?_, faithful.orderly.up past⟩, ?_⟩
  · rw [run, List.foldl_append]
    exact faithful.lifetime_run past later
  · intro m n j k seen r order found tells later
    have past := faithful.told m j seen found tells
    rw [faithful.agreed m n j k seen r order found tells later]
    exact congrArg (Lifetime.mk · _) past

/-- Two who want to end a lifetime. -/
def rivals : List Reason :=
  [.graceful, .failure (.interrupted "watch stream closed")]

/-- The second of them gets the lock while the first is about to; readers 2 and 3 look on. -/
def rivalry : List ObservationStep :=
  [.askOver 3, .call 1, .call 0, .call 1, .timeOut 2, .call 1, .askReason 3, .call 0, .wake 2,
    .call 1, .wake 2, .call 1, .askOver 3, .call 0, .call 0, .askReason 2, .call 0, .call 0,
    .askReason 3]

/-- Both readers have seen the end before they come to read the reason, and the first caller is
through by then without having left a trace. -/
theorem rivalry_won :
    (run (start rivals) rivalry).lifetime.isOver = true ∧
      (run (start rivals) rivalry).contention.entered = [1, 0] ∧
      (run (start rivals) rivalry).contention.calls.map (·.stage) = [.gone, .gone] ∧
      (run (start rivals) rivalry).sights[3]? = some (2, .waited true) ∧
      (run (start rivals) rivalry).sights[4]? = some (3, .over true) ∧
      (run (start rivals) rivalry).lifetime =
        ⟨true, .failure (.interrupted "watch stream closed")⟩ ∧
      ∀ later, (run (start rivals) (rivalry ++ later)).lifetime =
        ⟨true, .failure (.interrupted "watch stream closed")⟩ := by
  obtain ⟨stays, seen⟩ := first_cancel_wins rivals rivalry
  have standing := seen 3 5 2 2 (.waited true) _ (by decide) rfl rfl rfl
  exact ⟨rfl, rfl, rfl, rfl, rfl, standing, fun later => ((stays rfl).1 later).trans standing⟩

end Observation

end GroupOperator
