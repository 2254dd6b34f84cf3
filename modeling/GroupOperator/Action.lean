import GroupOperator.Activity

/-!
# Actions

An action changes a state, leaves a chronicle of what happened and ends in a result or a failure.
A failure ends the action, and keeps both the state reached and the chronicle so far: what has been
done is not undone.

Everything observable is in the chronicle, in one order: the records, the requests, the events
handed to whoever handles them, the pauses of the periodic redelivery and the notices of the serving
loop.  What one observer sees is a projection of it.
-/

namespace GroupOperator

/-! ## The chronicle -/

/-- What the serving loop makes known. -/
inductive Notice where
  /-- It serves on its own, for all namespaces or for the ones named. -/
  | serving (standalone clusterwide : Bool) (namespaces : List Value)
  /-- It has started, with a number of workers, and posts events of its own or not. -/
  | started (workers : Nat) (posting : Bool)
  /-- It has logged in with the keyword arguments named. -/
  | loggedIn (arguments : List String)
  /-- The period of redelivery was over; `true` if something was there to wake. -/
  | tick (woken : Bool)
  deriving DecidableEq, Repr

/-- A place credentials are loaded from. -/
inductive CredentialSource where
  /-- The cluster the operator runs in. -/
  | cluster
  /-- A file, or the customary file if none is named. -/
  | file (path : Option Value)
  deriving DecidableEq, Repr

/-- Something that happened. -/
inductive Moment where
  /-- A record was kept. -/
  | told (r : Record)
  /-- A request was made. -/
  | requested (r : Request)
  /-- An event was handed over to be handled. -/
  | handed (e : Event)
  /-- The periodic redelivery began a pause of so many seconds. -/
  | paused (seconds : Value)
  /-- The serving loop made something known. -/
  | noticed (n : Notice)
  /-- Credentials were asked for. -/
  | loading (source : CredentialSource)
  deriving DecidableEq, Repr

/-- What happened, first thing first. -/
abbrev Chronicle := List Moment

namespace Chronicle

/-- The records kept. -/
def records (c : Chronicle) : List Record :=
  c.filterMap fun | .told r => some r | _ => none

/-- The requests made. -/
def requests (c : Chronicle) : List Request :=
  c.filterMap fun | .requested r => some r | _ => none

/-- The events handed over. -/
def events (c : Chronicle) : List Event :=
  c.filterMap fun | .handed e => some e | _ => none

/-- The pauses begun. -/
def pauses (c : Chronicle) : List Value :=
  c.filterMap fun | .paused n => some n | _ => none

/-- The notices given. -/
def notices (c : Chronicle) : List Notice :=
  c.filterMap fun | .noticed n => some n | _ => none

/-- The places credentials were asked for. -/
def loads (c : Chronicle) : List CredentialSource :=
  c.filterMap fun | .loading s => some s | _ => none

@[simp] theorem records_append (c d : Chronicle) : records (c ++ d) = records c ++ records d := by
  simp [records]

@[simp] theorem requests_append (c d : Chronicle) :
    requests (c ++ d) = requests c ++ requests d := by
  simp [requests]

@[simp] theorem events_append (c d : Chronicle) : events (c ++ d) = events c ++ events d := by
  simp [events]

@[simp] theorem pauses_append (c d : Chronicle) : pauses (c ++ d) = pauses c ++ pauses d := by
  simp [pauses]

end Chronicle

/-! ## Actions -/

/-- How an action ended. -/
structure Outcome (σ α : Type) where
  /-- The result or the failure. -/
  result : Except Failure α
  /-- What happened. -/
  chronicle : Chronicle
  /-- The state reached. -/
  state : σ

/-- A way to go on from a state. -/
def Action (σ α : Type) : Type :=
  σ → Outcome σ α

namespace Action

variable {σ τ α β : Type}

/-- Does nothing. -/
def done (a : α) : Action σ α :=
  fun s => ⟨.ok a, [], s⟩

/-- Goes on with what the result says; a failure ends both. -/
def bind (p : Action σ α) (k : α → Action σ β) : Action σ β :=
  fun s =>
    let first := p s
    match first.result with
    | .error f => ⟨.error f, first.chronicle, first.state⟩
    | .ok a =>
      let second := k a first.state
      ⟨second.result, first.chronicle ++ second.chronicle, second.state⟩

instance : Monad (Action σ) where
  pure := done
  bind := bind

/-- Fails. -/
def raise (f : Failure) : Action σ α :=
  fun s => ⟨.error f, [], s⟩

/-- Lets something happen. -/
def emit (m : Moment) : Action σ Unit :=
  fun s => ⟨.ok (), [m], s⟩

/-- Keeps a record. -/
def tell (r : Record) : Action σ Unit :=
  emit (.told r)

/-- The state. -/
def state : Action σ σ :=
  fun s => ⟨.ok s, [], s⟩

/-- Changes the state. -/
def update (change : σ → σ) : Action σ Unit :=
  fun s => ⟨.ok (), [], change s⟩

/-- Takes a result that may be a failure. -/
def ofExcept : Except Failure α → Action σ α
  | .ok a => done a
  | .error f => raise f

/-- Runs a part and hands over its failure instead of failing. -/
def attempt (p : Action σ α) : Action σ (Except Failure α) :=
  fun s =>
    let outcome := p s
    ⟨.ok outcome.result, outcome.chronicle, outcome.state⟩

/-- Runs an action on a part of a larger state. -/
def within (get : τ → σ) (put : σ → τ → τ) (p : Action σ α) : Action τ α :=
  fun t =>
    let outcome := p (get t)
    ⟨outcome.result, outcome.chronicle, put outcome.state t⟩

/-- Does something for every member of a list, in order, up to the first failure. -/
def forEach (act : α → Action σ Unit) : List α → Action σ Unit
  | [] => done ()
  | a :: rest => bind (act a) fun _ => forEach act rest

/-! ## Laws -/

@[simp] theorem pure_eq (a : α) : (pure a : Action σ α) = done a := rfl

@[simp] theorem bind_eq (p : Action σ α) (k : α → Action σ β) : p >>= k = p.bind k := rfl

@[simp] theorem done_apply (a : α) (s : σ) : (done a : Action σ α) s = ⟨.ok a, [], s⟩ := rfl

@[simp] theorem raise_apply (f : Failure) (s : σ) :
    (raise f : Action σ α) s = ⟨.error f, [], s⟩ := rfl

@[simp] theorem emit_apply (m : Moment) (s : σ) : emit m s = ⟨.ok (), [m], s⟩ := rfl

@[simp] theorem state_apply (s : σ) : (state : Action σ σ) s = ⟨.ok s, [], s⟩ := rfl

@[simp] theorem update_apply (change : σ → σ) (s : σ) :
    update change s = ⟨.ok (), [], change s⟩ := rfl

theorem bind_apply_of_ok {p : Action σ α} {k : α → Action σ β} {s : σ} {a : α}
    (h : (p s).result = .ok a) :
    p.bind k s = ⟨(k a (p s).state).result, (p s).chronicle ++ (k a (p s).state).chronicle,
      (k a (p s).state).state⟩ := by
  simp [bind, h]

theorem bind_apply_of_error {p : Action σ α} {k : α → Action σ β} {s : σ} {f : Failure}
    (h : (p s).result = .error f) :
    p.bind k s = ⟨.error f, (p s).chronicle, (p s).state⟩ := by
  simp [bind, h]

end Action

/-! ## Running an activity -/

/-- Who answers requests: a reply to each, from a state and with a new one. -/
abbrev Answering (σ : Type) :=
  (r : Request) → σ → r.Reply × σ

/-- Runs an activity, all its requests being answered. -/
def Activity.run {σ α : Type} (answer : Answering σ) : Activity α → Action σ α
  | .done a => Action.done a
  | .raised f => Action.raise f
  | .note r next => Action.bind (Action.tell r) fun _ => next.run answer
  | .request r next => fun s =>
    let (reply, s) := answer r s
    Action.bind (Action.emit (.requested r)) (fun _ => (next reply).run answer) s

/-- Running parts one after the other is running the whole. -/
theorem Activity.run_bind {σ α β : Type} (answer : Answering σ) (p : Activity α)
    (k : α → Activity β) :
    (p.bind k).run answer = (p.run answer).bind fun a => (k a).run answer := by
  induction p with
  | done a => funext s; simp [Activity.bind, run, Action.bind]
  | raised f => funext s; simp [Activity.bind, run, Action.bind]
  | note r next ih =>
    funext s
    simp only [Activity.bind, run, ih, Action.tell, Action.bind, Action.emit]
    cases hr : (next.run answer s).result <;> simp
  | request r next ih =>
    funext s
    simp only [Activity.bind, run, ih, Action.bind, Action.emit]
    cases hr : ((next (answer r s).1).run answer (answer r s).2).result <;> simp

end GroupOperator
