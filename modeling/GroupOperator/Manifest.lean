import GroupOperator.Number.Numeral
import GroupOperator.ServiceGroup

/-!
# Manifests

What the operator asks the cluster to create for a group: a *workload* whose pods mount the peer
file, and the *peer file* itself, owned by the workload so that it goes with it.

The manifests are written down field by field as far as a field is decided here; `toValue` gives the
form in which the cluster receives them, where whatever is nothing is left out.
-/

namespace GroupOperator

namespace Manifest

/-! ## Parts of a workload -/

/-- Labels, by name. -/
abbrev Labels := List (String × Value)

/-- A volume made visible in a container. -/
structure Mount where
  /-- The name of the volume. -/
  volume : String
  /-- Where it appears. -/
  path : String
  /-- Whether it can only be read. -/
  readOnly : Bool
  deriving DecidableEq, Repr

/-- A container of a pod. -/
structure Container where
  /-- Its name. -/
  name : String
  /-- The image it runs. -/
  image : Value
  /-- The volumes it sees. -/
  mounts : List Mount
  deriving DecidableEq, Repr

/-- A key of a configuration object shown as a file. -/
structure Projection where
  /-- The key. -/
  key : String
  /-- The name of the file. -/
  path : String
  deriving DecidableEq, Repr

/-- A volume that holds keys of a configuration object. -/
structure Volume where
  /-- Its name in the pod. -/
  name : String
  /-- The name of the configuration object. -/
  source : String
  /-- The keys that are shown; no others are. -/
  items : List Projection
  deriving DecidableEq, Repr

/-- What every pod of a workload looks like. -/
structure Pod where
  /-- Its labels. -/
  labels : Labels
  /-- Its containers. -/
  containers : List Container
  /-- Its volumes. -/
  volumes : List Volume
  deriving DecidableEq, Repr

/-- A workload. -/
structure Workload where
  /-- Its name. -/
  name : Value
  /-- The namespace it states. -/
  namespaceName : Value
  /-- How many pods it keeps. -/
  replicas : Int
  /-- The labels by which it knows its pods. -/
  selector : Labels
  /-- What its pods look like. -/
  pod : Pod
  deriving DecidableEq, Repr

/-- The API version and kind that a workload states. -/
def Workload.typeFields : String × String :=
  (Schema.workloadApiVersion, Schema.workloadKind)

/-! ## Parts of a peer file -/

/-- A reference to the object that another one goes with. -/
structure Owner where
  /-- The API version of the owner. -/
  apiVersion : String
  /-- The kind of the owner. -/
  kind : String
  /-- The name of the owner. -/
  name : Value
  /-- The cluster's identifier of the owner. -/
  uid : Value
  deriving DecidableEq, Repr

/-- A configuration object that holds a peer file. -/
structure PeerFile where
  /-- Its name. -/
  name : String
  /-- The namespace it states. -/
  namespaceName : Value
  /-- What it goes with. -/
  owners : List Owner
  /-- Its contents, by key. -/
  data : List (String × String)
  deriving DecidableEq, Repr

/-! ## Names -/

/-- A workload has the name of its group. -/
def workloadName (group : Value) : Value :=
  group

/-- A peer file has the name of its group with a suffix. -/
def peerFileName (group : Value) : String :=
  group.text ++ Schema.peerFileSuffix

/-! ## Making manifests -/

/-- The most characters of a malformed numeral that a message shows. -/
def shownNumeral : Nat := 200

/-- The message about a text that should have been a whole number. -/
def wholeErrorMessage (s : String) : Numeral.WholeError → String
  | .malformed =>
    "invalid literal for int() with base 10: " ++
      String.ofList ((Text.quotedChars s.toList).take shownNumeral)
  | .tooLong digits =>
    "Exceeds the limit (" ++ toString Numeral.maxWholeDigits ++
      " digits) for integer string conversion: value has " ++ toString digits ++
      " digits; use sys.set_int_max_str_digits() to increase the limit"

/-- The whole number that a count amounts to: fractions are dropped, truth values are counted, and a
text is read. -/
def replicas? : Value → Except Failure Int
  | .int n => .ok n
  | .bool b => .ok (if b then 1 else 0)
  | .float x =>
    match x.truncate? with
    | some n => .ok n
    | none =>
      if x = .nan then .error (.badValue "cannot convert float NaN to integer")
      else .error (.overflow "cannot convert float infinity to integer")
  | .str s => (Numeral.whole? s).mapError fun e => .badValue (wholeErrorMessage s e)
  | v => .error (.badType
      ("int() argument must be a string, a bytes-like object or a real number, not \x27" ++
        v.typeName ++ "\x27"))

/-- The labels of a group's pods. -/
def podLabels (group : Value) : Labels :=
  [(Schema.habitatLabel.1, .str Schema.habitatLabel.2), (Schema.groupLabel, group)]

/-- The pods of a group: one container, which sees the peer file and nothing else of its object. -/
def pod (g : ServiceGroup) : Pod where
  labels := podLabels g.name
  containers := [⟨Schema.containerName, g.image, [⟨Schema.volumeName, Schema.mountPath, true⟩]⟩]
  volumes := [⟨Schema.volumeName, peerFileName g.name, [⟨Schema.peerFileKey, Schema.peerFileKey⟩]⟩]

/-- The workload of a group in a namespace. -/
def workload? (g : ServiceGroup) (namespaceName : Value) : Except Failure Workload :=
  (replicas? g.count).map fun replicas =>
    { name := workloadName g.name, namespaceName, replicas, selector := podLabels g.name,
      pod := pod g }

/-- A reference to a created workload.  It needs both a name and an identifier. -/
def owner? (workload : Identity) : Except Failure Owner :=
  if workload.name = .null then
    .error (.badValue "Invalid value for `name`, must not be `None`")
  else if workload.uid = .null then
    .error (.badValue "Invalid value for `uid`, must not be `None`")
  else .ok ⟨Workload.typeFields.1, Workload.typeFields.2, workload.name, workload.uid⟩

/-- The peer file of a group in a namespace.  It starts out empty. -/
def peerFile (g : ServiceGroup) (namespaceName : Value) (owners : List Owner) : PeerFile where
  name := peerFileName g.name
  namespaceName
  owners
  data := [(Schema.peerFileKey, "")]

/-! ## The written form -/

/-- An object without the members that are nothing. -/
def object (members : List (String × Value)) : Value :=
  .object (members.filter fun m => m.2 ≠ .null)

/-- The written form of a mount. -/
def Mount.toValue (m : Mount) : Value :=
  object [("name", .str m.volume), ("mountPath", .str m.path), ("readOnly", .bool m.readOnly)]

/-- The written form of a container. -/
def Container.toValue (c : Container) : Value :=
  object [("name", .str c.name), ("image", c.image),
    ("volumeMounts", .list (c.mounts.map Mount.toValue))]

/-- The written form of a projection. -/
def Projection.toValue (p : Projection) : Value :=
  object [("key", .str p.key), ("path", .str p.path)]

/-- The written form of a volume. -/
def Volume.toValue (v : Volume) : Value :=
  object [("name", .str v.name),
    ("configMap", object [("name", .str v.source),
      ("items", .list (v.items.map Projection.toValue))])]

/-- The written form of a workload. -/
def Workload.toValue (w : Workload) : Value :=
  object [
    ("apiVersion", .str Workload.typeFields.1),
    ("kind", .str Workload.typeFields.2),
    ("metadata", object [("name", w.name), ("namespace", w.namespaceName)]),
    ("spec", object [
      ("replicas", .int w.replicas),
      ("selector", object [("matchLabels", .object w.selector)]),
      ("template", object [
        ("metadata", object [("labels", .object w.pod.labels)]),
        ("spec", object [
          ("containers", .list (w.pod.containers.map Container.toValue)),
          ("volumes", .list (w.pod.volumes.map Volume.toValue))])])])]

/-- The written form of a reference. -/
def Owner.toValue (o : Owner) : Value :=
  object [("apiVersion", .str o.apiVersion), ("kind", .str o.kind), ("name", o.name),
    ("uid", o.uid)]

/-- The written form of a peer file. -/
def PeerFile.toValue (f : PeerFile) : Value :=
  object [
    ("apiVersion", .str "v1"),
    ("kind", .str "ConfigMap"),
    ("metadata", object [("name", .str f.name), ("namespace", f.namespaceName),
      ("ownerReferences", if f.owners.isEmpty then .null else .list (f.owners.map Owner.toValue))]),
    ("data", .object (f.data.map fun (key, contents) => (key, .str contents)))]

end Manifest

end GroupOperator
