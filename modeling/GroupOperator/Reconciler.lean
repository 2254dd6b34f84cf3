import GroupOperator.Gateway
import GroupOperator.ServiceGroup.Validation

/-!
# Reconciler

What is done for each event.  An added group gets a workload in the operator's own namespace and
then a peer file that goes with it; a deleted group's workload is deleted by the group's own
namespace and name; a modification changes nothing.

Nothing is tried again and nothing is undone.  Every way in which the work can stop early is told in
one record, and no failure leaves `handle`.
-/

namespace GroupOperator.Reconciler

/-- A record of the reconciler. -/
def record (level : Level) (message : String) (cause : Option Failure := none) : Record :=
  ⟨level, .reconciler, message, cause⟩

/-! ## Added groups -/

/-- After the workload: the peer file, owned by the workload that was created. -/
def createPeerFile (home : Value) (g : ServiceGroup) (workload : Identity) : Activity Unit := do
  let file := Manifest.peerFileName g.name
  let owner ← .ofExcept (Manifest.owner? workload)
  match ← (Gateway.createPeerFile (Manifest.peerFile g home [owner]) home).attempt with
  | .ok _ => .tell (record .info ("Created ConfigMap " ++ file ++ " in namespace " ++ home.text))
  | .error (.call _ _ _ cause _) =>
    .tell (record .error ("Failed to create ConfigMap " ++ file ++ " in namespace " ++ home.text ++
      " for ServiceGroup " ++ g.name.text ++ ": " ++ cause.message ++ "; Deployment " ++
      workload.name.text ++ " (uid " ++ workload.uid.text ++ ") was left in place"))
  | .error f => .raised f

/-- Creates what belongs to a valid group.  A workload that exists already is no fault: every
redelivery of a materialized group meets it. -/
def materialize (home : Value) (g : ServiceGroup) : Activity Unit := do
  let name := (Manifest.workloadName g.name).text
  let workload ← .ofExcept (Manifest.workload? g home)
  match ← (Gateway.createWorkload workload home).attempt with
  | .ok created => do
    .tell (record .info ("Created Deployment " ++ created.name.text ++ " in namespace " ++
      created.namespaceName.text))
    createPeerFile home g created
  | .error (.call operation object namespaceName cause status) =>
    if (Failure.call operation object namespaceName cause status).isConflict then
      .tell (record .warning ("Deployment " ++ name ++ " already exists in namespace " ++
        home.text ++ ", skipping ServiceGroup " ++ g.name.text))
    else
      .tell (record .error ("Failed to create Deployment " ++ name ++ " in namespace " ++
        home.text ++ " for ServiceGroup " ++ g.name.text ++ ": " ++ cause.message))
  | .error f => .raised f

/-- An added group: it is validated and then materialized in the namespace `home`. -/
def added (home : Value) (g : ServiceGroup) : Activity Unit := do
  .tell (record .debug ("onAdd " ++ g.link.text))
  match g.reject? with
  | some rejection =>
    .tell (record .error ("Validation error for ServiceGroup " ++ g.name.text ++ " in namespace " ++
      g.namespaceName.text ++ ": " ++ rejection.detail ++ " (key: " ++ rejection.key ++ ")"))
  | none => do
    .tell (record .debug ("Validated ServiceGroup " ++ g.name.text))
    materialize home g

/-! ## Modified and deleted groups -/

/-- A modified group: the change is told. -/
def modified (old : Option ServiceGroup) (g : ServiceGroup) : Activity Unit :=
  let before := (old.map fun o => o.link.text).getD Value.null.text
  .tell (record .info ("onUpdate oldObj: " ++ before ++ ", newObj: " ++ g.link.text))

/-- A deleted group: its workload is deleted, and the peer file goes with that. -/
def deleted (g : ServiceGroup) : Activity Unit := do
  .tell (record .debug ("onDelete " ++ g.link.text))
  let name := Manifest.workloadName g.name
  match ← (Gateway.deleteWorkload name g.namespaceName).attempt with
  | .ok () =>
    .tell (record .info ("Deleted Deployment " ++ name.text ++ " in namespace " ++
      g.namespaceName.text))
  | .error (.call _ _ _ cause _) =>
    .tell (record .error ("Failed to delete Deployment " ++ name.text ++ " in namespace " ++
      g.namespaceName.text ++ ": " ++ cause.message))
  | .error f => .raised f

/-! ## Events -/

/-- What an event asks for. -/
def respond (home : Value) (e : Event) : Activity Unit :=
  match e.kind with
  | .added => added home e.group
  | .modified => modified e.old e.group
  | .deleted => deleted e.group

/-- Handles an event.  A failure that nothing provided for is told and goes no further. -/
def handle (home : Value) (e : Event) : Activity Unit := do
  match ← (respond home e).attempt with
  | .ok () => .done ()
  | .error f =>
    .tell (record .error ("Unexpected error handling " ++ e.kind.name ++ " for " ++
      e.group.link.text ++ ": " ++ f.message) (some f))

end GroupOperator.Reconciler
