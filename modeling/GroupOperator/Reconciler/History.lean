import GroupOperator.Cluster
import GroupOperator.Reconciler

/-!
# What a history of events leaves behind

The workload that a cluster should hold for a name after a history of events can be read off the
history alone, without carrying it out: it is the one of the first valid group of that name that was
added since the workload was last deleted.  A workload is created in the operator's own namespace
wherever its group lies, and deleted only by the deletion of a group of that very namespace.

`Cluster.afterEvents` carries a history out; the two are there to be compared.
-/

namespace GroupOperator

/-- Whether an event deletes the workload of a name in the namespace `home`. -/
def Event.deletes (home name : Value) (e : Event) : Bool :=
  e.kind = .deleted && e.group.namespaceName = home && e.group.name = name

/-- Whether an event asks for a workload of a name. -/
def Event.asksFor (name : Value) (e : Event) : Bool :=
  e.kind = .added && e.group.name = name && decide e.group.IsValid

/-- The group whose workload stands after an event, given the one before. -/
def Event.standing (home name : Value) (before : Option ServiceGroup) (e : Event) :
    Option ServiceGroup :=
  if e.deletes home name then none
  else if e.asksFor name then some (before.getD e.group)
  else before

/-- The group whose workload of a name stands after a history that began without any. -/
def standing (home name : Value) (history : List Event) : Option ServiceGroup :=
  history.foldl (Event.standing home name) none

/-- What is handled, event after event. -/
def Reconciler.handleAll (home : Value) : List Event → Activity Unit
  | [] => .done ()
  | e :: rest => (Reconciler.handle home e).bind fun () => handleAll home rest

/-- A cluster after a history of events has been handled. -/
def Cluster.afterEvents (home : Value) (c : Cluster) (history : List Event) : Cluster :=
  ((Reconciler.handleAll home history).run Cluster.answer c).state

/-! ## How a history grows -/

@[simp] theorem standing_nil (home name : Value) : standing home name [] = none := rfl

theorem standing_concat (home name : Value) (history : List Event) (e : Event) :
    standing home name (history ++ [e]) =
      Event.standing home name (standing home name history) e := by
  simp [standing]

end GroupOperator
