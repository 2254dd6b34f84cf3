import GroupOperator.Value

/-!
# Schema

The names by which the operator and the cluster know each other: the resource that is watched, the
resources that are made from it, and the file that the members of a group find each other by.
-/

namespace GroupOperator.Schema

/-! ## The watched resource -/

/-- The resource's API group. -/
def group : String := "habitat.sh"

/-- The version of that group. -/
def version : String := "v1"

/-- The plural name, under which the cluster lists the resource. -/
def plural : String := "servicegroups"

/-- The kind that an object of the resource states. -/
def kind : String := "ServiceGroup"

/-- Group and version together. -/
def apiVersion : String := group ++ "/" ++ version

/-! ## The workload -/

/-- The API version of a workload. -/
def workloadApiVersion : String := "apps/v1"

/-- The kind of a workload. -/
def workloadKind : String := "Deployment"

/-- The name of a workload's only container. -/
def containerName : String := "habitat-service"

/-- The label that every workload carries. -/
def habitatLabel : String × String := ("habitat", "true")

/-- The label that names a workload's group. -/
def groupLabel : String := "habitat-service-group"

/-! ## The peer file -/

/-- What is added to a group's name to name its peer file. -/
def peerFileSuffix : String := "-peer-file"

/-- The key under which the peer file is kept. -/
def peerFileKey : String := "peer-watch-file"

/-- The name of the volume that holds the peer file. -/
def volumeName : String := "config"

/-- Where that volume is mounted. -/
def mountPath : String := "/kubernetes-configmap"

/-! ## Limits and policies -/

/-- The propagation policy under which dependents are removed after their owner. -/
def backgroundPropagation : String := "Background"

/-- The greatest number of replicas: the greatest signed number of 32 bits. -/
def maxReplicas : Int := 2147483647

/-- The names of all constants, with their values. -/
def constants : List (String × Value) := [
  ("GROUP", .str group),
  ("VERSION", .str version),
  ("PLURAL", .str plural),
  ("KIND", .str kind),
  ("API_VERSION", .str apiVersion),
  ("WORKLOAD_API_VERSION", .str workloadApiVersion),
  ("WORKLOAD_KIND", .str workloadKind),
  ("CONTAINER_NAME", .str containerName),
  ("HABITAT_LABEL", .object [(habitatLabel.1, .str habitatLabel.2)]),
  ("SERVICE_GROUP_LABEL", .str groupLabel),
  ("PEER_FILE_SUFFIX", .str peerFileSuffix),
  ("PEER_WATCH_FILE_KEY", .str peerFileKey),
  ("CONFIG_VOLUME_NAME", .str volumeName),
  ("CONFIG_MOUNT_PATH", .str mountPath),
  ("PROPAGATION_BACKGROUND", .str backgroundPropagation),
  ("MAX_REPLICAS", .int maxReplicas)]

end GroupOperator.Schema
