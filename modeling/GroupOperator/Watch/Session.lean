import GroupOperator.Watch.Supervision

/-!
# Sessions

A subscription at work, turn by turn.  One side is the task: it opens the watch, reacts to one
happening after the other, closes the watch, and draws the consequences.  The other side is the
starter with its looks.  They are the two sides of `Supervision`; there the task may do whatever it
likes, and here it does what the script makes it do.

The turns come in any order.  When those that are given are over, the task goes on alone to its end,
and then the starter to its own; so every row of turns belongs to a whole start.  A task that the
starter has given up on is no exception: it changes nothing any more that the starter would look at.
-/

namespace GroupOperator

/-- Whose turn it is. -/
inductive Turn where
  /-- The task goes on. -/
  | task
  /-- The starter goes on. -/
  | starter
  /-- The starter has waited for the task long enough. -/
  | giveUp
  deriving DecidableEq, Repr

/-- How far the task has come while it serves. -/
inductive Progress where
  /-- It is about to open the watch. -/
  | opening (script : List Happening)
  /-- It reacts to what happens, and this is yet to come. -/
  | following (rest : List Happening)
  /-- It is about to close the watch, having come to a result. -/
  | closing (result : Except Failure Unit)

/-- A subscription at work. -/
structure Session (σ : Type) where
  /-- What is served. -/
  serving : Serving σ
  /-- How far the task has come, as long as it serves. -/
  progress : Progress
  /-- What has happened. -/
  chronicle : Chronicle := []
  /-- The task. -/
  task : TaskStage := .serving
  /-- The starter. -/
  starter : StarterStage := .lookReady

/-- What a happening changes in the flags. -/
def Happening.steps : Happening → List SupervisionStep
  | .ready => [.establish]
  | .wait reason | .cancel reason => [.cancel reason]
  | .signal _ => [.cancel .graceful]
  | .startup | .login _ | .notification _ _ | .tick | .failed _ => []

namespace Session

variable {σ : Type}

/-- A session that begins. -/
def start (serving : Serving σ) (script : List Happening) : Session σ :=
  { serving, progress := .opening script }

/-- What the two sides have in common. -/
def supervision (s : Session σ) : Supervision where
  lifetime := s.serving.lifetime
  ready := s.serving.ready
  task := s.task
  starter := s.starter

/-- A part of the task's work is done. -/
def record {α : Type} (s : Session σ) (o : Outcome (Serving σ) α) : Session σ :=
  { s with serving := o.state, chronicle := s.chronicle ++ o.chronicle }

/-- The task's turn while it serves. -/
def serve (w : Watch) (handler : Handler σ) (s : Session σ) : Session σ :=
  match s.progress with
  | .opening script =>
    let o := Serving.openWatch w s.serving
    match o.result with
    | .ok () => { s.record o with progress := .following script }
    | .error f => { s.record o with task := .ended (some f) }
  | .following [] => { s with progress := .closing (.ok ()) }
  | .following (h :: rest) =>
    let o := Serving.react w handler h s.serving
    match o.result with
    | .ok () => { s.record o with progress := .following rest }
    | .error f => { s.record o with progress := .closing (.error f) }
  | .closing result =>
    let o := Serving.close result s.serving
    { s.record o with task := .ended (Subscription.failure? o.result) }

/-- What the task tells on its turn after serving. -/
def remark (s : Session σ) : Chronicle :=
  match s.task with
  | .ended (some f) => [.told (Subscription.stopped f)]
  | .established =>
    if s.serving.lifetime.isOver then []
    else [.told (Watching.record .error Subscription.unexpectedEnd)]
  | _ => []

/-- One of the sides takes a step that is not about serving. -/
def move (s : Session σ) (m : SupervisionStep) : Session σ :=
  let t := s.supervision.step m
  { s with serving := { s.serving with lifetime := t.lifetime }, task := t.task,
           starter := t.starter }

/-- One turn. -/
def step (w : Watch) (handler : Handler σ) (s : Session σ) : Turn → Session σ
  | .task =>
    match s.task with
    | .serving => s.serve w handler
    | _ => { s.move .task with chronicle := s.chronicle ++ s.remark }
  | .starter => s.move .starter
  | .giveUp => s.move .giveUp

/-- Turns in the order given. -/
def run (w : Watch) (handler : Handler σ) (s : Session σ) (turns : List Turn) : Session σ :=
  turns.foldl (step w handler) s

/-- The steps of supervision that a turn comes to. -/
def steps (w : Watch) (s : Session σ) : Turn → List SupervisionStep
  | .task =>
    match s.task with
    | .serving =>
      match s.progress with
      | .opening _ =>
        match (Serving.openWatch w s.serving).result with
        | .ok () => []
        | .error f => [.endServing (some f)]
      | .following [] => []
      | .following (h :: _) => h.steps
      | .closing result =>
        [.endServing (Subscription.failure? (Serving.close result s.serving).result)]
    | _ => [.task]
  | .starter => [.starter]
  | .giveUp => [.giveUp]

/-- The steps of supervision that turns come to. -/
def row (w : Watch) (handler : Handler σ) (s : Session σ) : List Turn → List SupervisionStep
  | [] => []
  | turn :: rest => s.steps w turn ++ (s.step w handler turn).row w handler rest

/-- The turns given, and those that bring the task to its end and then the starter. -/
def whole (script : List Happening) (turns : List Turn) : List Turn :=
  turns ++ .replicate (script.length + 6) .task ++ .replicate 4 .starter

/-- A session from its beginning to the end of both sides. -/
def complete (w : Watch) (handler : Handler σ) (script : List Happening) (turns : List Turn)
    (serving : Serving σ) : Session σ :=
  (start serving script).run w handler (whole script turns)

/-- The steps of supervision that a session comes to, from its beginning to the end of both
sides. -/
def course (w : Watch) (handler : Handler σ) (script : List Happening) (turns : List Turn)
    (serving : Serving σ) : List SupervisionStep :=
  (start serving script).row w handler (whole script turns)

/-- What the starter comes to. -/
def verdict (w : Watch) (s : Session σ) : Except Failure Unit :=
  match s.starter with
  | .blamed ending => .error (Subscription.registrationFailure w ending)
  | _ => .ok ()

end Session

namespace Subscription

variable {σ : Type}

/-- Starts the subscription, the sides taking their turns as given. -/
def startInTurns (w : Watch) (handler : Handler σ) (script : List Happening) (turns : List Turn) :
    Action (Subscription σ) Unit := do
  if (← .state).begun then .raise alreadyStarted
  else
    .update fun s => { s with begun := true }
    onServing fun serving =>
      let s := Session.complete w handler script turns serving
      ⟨s.verdict w, s.chronicle, s.serving⟩

end Subscription

end GroupOperator
