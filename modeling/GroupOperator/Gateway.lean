import GroupOperator.Activity

/-!
# Gateway

The three changes the operator makes to the cluster, one request each and never a second try.  A
refusal by the API and a failure of the transport come back as failed calls, which say what was
being done to which object; the status is the API's own.  Any other failure is passed on as it is.
-/

namespace GroupOperator.Gateway

/-- What a failed request is reported as. -/
def report (operation : String) (name namespaceName : Value) (f : Failure) : Failure :=
  match f with
  | .refused status _ _ => .call (.str operation) name namespaceName f status
  | f => if f.isTransport then .call (.str operation) name namespaceName f .null else f

/-- What a created object is known by; what the cluster leaves out is filled in. -/
def identityOf (m : Metadata) (namespaceName : Value) : Identity where
  name := m.name
  namespaceName := m.namespaceName.orElse namespaceName
  uid := m.uid.orElse (.str "")

/-- Creates a workload. -/
def createWorkload (w : Manifest.Workload) (namespaceName : Value) : Activity Identity :=
  .request (.createWorkload namespaceName w) fun
    | .ok m => .done (identityOf m namespaceName)
    | .error f => .raised (report "create Deployment" w.name namespaceName f)

/-- Creates a peer file. -/
def createPeerFile (file : Manifest.PeerFile) (namespaceName : Value) : Activity Identity :=
  .request (.createPeerFile namespaceName file) fun
    | .ok m => .done (identityOf m namespaceName)
    | .error f => .raised (report "create ConfigMap" (.str file.name) namespaceName f)

/-- Deletes a workload, without waiting for what goes with it. -/
def deleteWorkload (name namespaceName : Value)
    (policy : Value := .str Schema.backgroundPropagation) : Activity Unit :=
  .request (.deleteWorkload name namespaceName policy) fun
    | .ok () => .done ()
    | .error f => .raised (report "delete Deployment" name namespaceName f)

/-! ## Who can be a gateway

A gateway needs one client for workloads and one for configuration objects. -/

/-- What a gateway cannot do without. -/
inductive MissingClient where
  /-- The client for workloads. -/
  | workloads
  /-- The client for configuration objects. -/
  | configuration
  deriving DecidableEq, Repr

/-- A missing client as a failure. -/
def MissingClient.failure : MissingClient → Failure
  | .workloads => .configuration "invalid gateway config: no AppsV1Api client"
  | .configuration => .configuration "invalid gateway config: no CoreV1Api client"

/-- The first client that is missing. -/
def missing? (workloads configuration : Bool) : Option MissingClient :=
  if !workloads then some .workloads
  else if !configuration then some .configuration
  else none

end GroupOperator.Gateway
