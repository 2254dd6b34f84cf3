import GroupOperator.Action
import GroupOperator.Json.Write

/-!
# A cluster in memory

The part of a cluster that the operator depends on.  Objects are kept by namespace and name, each
with an identifier that no other object ever had; creating what exists is a conflict, and deleting
what does not is an error.  Deleting a workload in the background also removes the peer files of
its namespace that it owns.

A *staged* cluster holds replies prepared for the next requests of a kind.  Such a reply leaves the
objects alone; where none is prepared, the request is answered as the cluster itself would.
-/

namespace GroupOperator

/-- An object of the cluster. -/
structure Stored (α : Type) where
  /-- The namespace it lies in. -/
  namespaceName : Value
  /-- Its name. -/
  name : Value
  /-- Its identifier. -/
  uid : String
  /-- What it was created from. -/
  manifest : α
  deriving DecidableEq, Repr

/-- Whether an object has that namespace and name. -/
def Stored.isAt {α : Type} (namespaceName name : Value) (o : Stored α) : Bool :=
  o.namespaceName = namespaceName && o.name = name

/-- The identifiers of the objects a peer file goes with. -/
def Stored.owners (o : Stored Manifest.PeerFile) : List Value :=
  o.manifest.owners.map (·.uid)

/-- The objects of a cluster. -/
structure Cluster where
  /-- How many objects were ever created. -/
  created : Nat := 0
  /-- The workloads, oldest first. -/
  workloads : List (Stored Manifest.Workload) := []
  /-- The peer files, oldest first. -/
  peerFiles : List (Stored Manifest.PeerFile) := []
  deriving DecidableEq, Repr

namespace Cluster

/-- The cluster without objects. -/
def empty : Cluster := {}

/-! ## Looking up -/

/-- The workload of that namespace and name. -/
def workload? (c : Cluster) (namespaceName name : Value) : Option (Stored Manifest.Workload) :=
  c.workloads.find? (·.isAt namespaceName name)

/-- The peer file of that namespace and name. -/
def peerFile? (c : Cluster) (namespaceName name : Value) : Option (Stored Manifest.PeerFile) :=
  c.peerFiles.find? (·.isAt namespaceName name)

/-! ## Answering -/

/-- The refusal to create what exists. -/
def conflict : Failure :=
  .refused (.int 409) (.str "Conflict") .null

/-- The refusal to delete what does not exist. -/
def notFound : Failure :=
  .refused (.int 404) (.str "Not Found") .null

/-- The identifier of the next workload. -/
def nextWorkloadUid (c : Cluster) : String :=
  "dep-" ++ toString (c.created + 1)

/-- The identifier of the next peer file. -/
def nextPeerFileUid (c : Cluster) : String :=
  "cm-" ++ toString (c.created + 1)

/-- Creates a workload. -/
def createWorkload (c : Cluster) (namespaceName : Value) (w : Manifest.Workload) :
    Except Failure Metadata × Cluster :=
  match c.workload? namespaceName w.name with
  | some _ => (.error conflict, c)
  | none =>
    (.ok ⟨w.name, namespaceName, .str c.nextWorkloadUid⟩,
      { c with created := c.created + 1,
               workloads := c.workloads ++ [⟨namespaceName, w.name, c.nextWorkloadUid, w⟩] })

/-- Creates a peer file. -/
def createPeerFile (c : Cluster) (namespaceName : Value) (f : Manifest.PeerFile) :
    Except Failure Metadata × Cluster :=
  match c.peerFile? namespaceName (.str f.name) with
  | some _ => (.error conflict, c)
  | none =>
    (.ok ⟨.str f.name, namespaceName, .str c.nextPeerFileUid⟩,
      { c with created := c.created + 1,
               peerFiles := c.peerFiles ++ [⟨namespaceName, .str f.name, c.nextPeerFileUid, f⟩] })

/-- Removes the peer files that the owner `uid` leaves behind in a namespace, equal namespaces being
one. -/
def collect (c : Cluster) (namespaceName : Value) (uid : String) : Cluster :=
  { c with peerFiles := c.peerFiles.filter fun f =>
      !(f.namespaceName.equals namespaceName && f.owners.contains (.str uid)) }

/-- Deletes a workload. -/
def deleteWorkload (c : Cluster) (name namespaceName policy : Value) :
    Except Failure Unit × Cluster :=
  match c.workload? namespaceName name with
  | none => (.error notFound, c)
  | some w =>
    let rest := { c with workloads := c.workloads.filter fun o => !o.isAt namespaceName name }
    if policy = .str Schema.backgroundPropagation then (.ok (), rest.collect namespaceName w.uid)
    else (.ok (), rest)

/-- The cluster's reply to a request. -/
def answer : Answering Cluster
  | .createWorkload namespaceName w, c => c.createWorkload namespaceName w
  | .createPeerFile namespaceName f, c => c.createPeerFile namespaceName f
  | .deleteWorkload name namespaceName policy, c => c.deleteWorkload name namespaceName policy

/-! ## Listing -/

/-- The text by which objects are put in order: namespace and name as a document. -/
def sortKey (namespaceName name : Value) : String :=
  Json.write (.list [namespaceName, name])

/-- Objects in the order of their keys. -/
def listed {α : Type} (objects : List (Stored α)) : List (Stored α) :=
  let keyed := objects.map fun o => (sortKey o.namespaceName o.name, o)
  (keyed.mergeSort fun a b => decide (a.1 ≤ b.1)).map (·.2)

end Cluster

/-! ## Prepared replies -/

/-- A cluster with replies prepared for the requests to come, by kind and in order.  Where nothing
is prepared, the cluster itself replies. -/
structure StagedCluster where
  /-- The cluster itself. -/
  cluster : Cluster := {}
  /-- The replies to the next creates of a workload. -/
  workloadReplies : List (Option (Except Failure Metadata)) := []
  /-- The replies to the next creates of a peer file. -/
  peerFileReplies : List (Option (Except Failure Metadata)) := []
  /-- The replies to the next deletes of a workload. -/
  deletionReplies : List (Option (Except Failure Unit)) := []

namespace StagedCluster

/-- What is prepared for the next request of the kind of `r`, and the staged cluster without it. -/
def draw (s : StagedCluster) : (r : Request) → Option r.Reply × StagedCluster
  | .createWorkload .. => (s.workloadReplies.head?.join,
      { s with workloadReplies := s.workloadReplies.tail })
  | .createPeerFile .. => (s.peerFileReplies.head?.join,
      { s with peerFileReplies := s.peerFileReplies.tail })
  | .deleteWorkload .. => (s.deletionReplies.head?.join,
      { s with deletionReplies := s.deletionReplies.tail })

/-- The prepared reply to a request, which leaves the objects alone, or else the cluster's own. -/
def answer : Answering StagedCluster := fun r s =>
  match s.draw r with
  | (some reply, rest) => (reply, rest)
  | (none, rest) =>
    let (reply, cluster) := Cluster.answer r rest.cluster
    (reply, { rest with cluster })

/-- With nothing prepared, the reply and the objects are the cluster's own. -/
theorem answer_of_unprepared {s : StagedCluster} {r : Request} (h : (s.draw r).1 = none) :
    (answer r s).1 = (Cluster.answer r s.cluster).1 ∧
      (answer r s).2.cluster = (Cluster.answer r s.cluster).2 := by
  cases hd : s.draw r with
  | mk prepared rest =>
    have hc : rest.cluster = s.cluster := by
      cases r <;> simp only [draw, Prod.mk.injEq] at hd <;> rw [← hd.2]
    rw [hd] at h
    simp only at h
    subst h
    simp [answer, hd, hc]

/-- A prepared reply leaves the objects alone. -/
theorem cluster_of_prepared {s : StagedCluster} {r : Request} {reply : r.Reply}
    (h : (s.draw r).1 = some reply) : (answer r s).2.cluster = s.cluster := by
  cases hd : s.draw r with
  | mk prepared rest =>
    have hc : rest.cluster = s.cluster := by
      cases r <;> simp only [draw, Prod.mk.injEq] at hd <;> rw [← hd.2]
    rw [hd] at h
    simp only at h
    subst h
    simp [answer, hd, hc]

end StagedCluster

end GroupOperator
