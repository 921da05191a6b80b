import PodSizing.Cluster.PodMetrics
import PodSizing.Json.Plan
import PodSizing.Json.Reader

/-!
# Cluster objects in JSON

How pods and pod metrics are read from what the cluster sends.  Objects of the cluster are read
from JSON objects only, null counts as missing, and what is missing reads as empty; unknown keys
are ignored.  The records of the metrics API follow the rules of `Json.Record`.  A `shape` says
what is looked at when the text of an object is read.
-/

namespace PodSizing

open Json

namespace ClusterObject

/-- The fields of an object. -/
def fields? : Json → Option (List (String × Json))
  | .object fields => some fields
  | _ => none

/-- A field that may be missing or null. -/
def optional? {α : Type} (decode : Json → Option α) (fields : List (String × Json))
    (name : String) : Option (Option α) :=
  match fields.lookup name with
  | none | some .null => some none
  | some json => (decode json).map some

/-- A map of texts. -/
def asTextMap? (json : Json) : Option (List (String × String)) := do
  (← fields? json).mapM fun (name, value) => (asText? value).map (name, ·)

/-- An integer of 64 bits with a sign. -/
def asInteger? : Json → Option Int
  | .number (.integer value) =>
      if -(Nat.pow 2 63) ≤ value ∧ value < Nat.pow 2 63 then some value else none
  | _ => none

/-- The shape of an object of the cluster, in which each field may also be null. -/
def shape (name : String) (fields : List (String × Shape)) : Shape :=
  .object name (fields.map fun (name, shape) => (name, .nullable shape))

/-- The shape of a timestamp. -/
def time : Shape :=
  .checked "an RFC 3339 formatted date and time string" fun text =>
    match Timestamp.ofText text with
    | .ok _ => none
    | .error fault => some fault.message

/-- A field that names the kind or version of the object has to name the expected one. -/
def names? (fields : List (String × Json)) (name expected : String) : Option Unit := do
  match fields.lookup name with
  | none => some ()
  | some json => if (← asText? json) = expected then some () else none

end ClusterObject

open ClusterObject

namespace Metadata

/-- A timestamp in whole seconds, as the cluster writes it. -/
private def timeJson (timestamp : Timestamp) : Json := .string timestamp.toWholeText

/-- How a field that is only kept is read and written again. -/
private abbrev Keeper := Json → Option Json

/-- A text stays as it is. -/
private def keepText : Keeper := fun json => (asText? json).map .string

/-- A flag stays as it is. -/
private def keepFlag : Keeper := fun json => (asBool? json).map .bool

/-- An integer of 64 bits with a sign stays as it is. -/
private def keepInteger : Keeper := fun json =>
  (asInteger? json).map fun value => .number (.integer value)

/-- A time is written again in whole seconds. -/
private def keepTime : Keeper := fun json => (Timestamp.ofJson? json).map timeJson

/-- A list whose items are kept one by one. -/
private def keepList (keep : Keeper) : Keeper := fun json => (asList? keep json).map .array

/-- The fields of an object that are kept; those that are missing are left out. -/
private def keepFields (keepers : List (String × Keeper)) (json : Json) :
    Option (List (String × Json)) := do
  let fields ← fields? json
  let kept ← keepers.mapM fun (name, keep) => do
    match ← optional? keep fields name with
    | some json => some [(name, json)]
    | none => some []
  some kept.flatten

/-- The object that the metadata's object belongs to.  Its names are always written. -/
private def keepOwner : Keeper := fun json => do
  let names := ["apiVersion", "kind", "name", "uid"]
  let kept ← keepFields
    (names.map (·, keepText) ++ [("blockOwnerDeletion", keepFlag), ("controller", keepFlag)]) json
  some (.ofFields (names.map (·, .string "") ++ kept))

/-- Which fields of the object a program manages. -/
private def keepManager : Keeper := fun json => do
  let texts := ["apiVersion", "fieldsType", "manager", "operation", "subresource"]
  let kept ← keepFields (texts.map (·, keepText) ++ [("fieldsV1", some), ("time", keepTime)]) json
  some (.ofFields kept)

/-- The fields that are only kept. -/
private def keepers : List (String × Keeper) :=
  [("annotations", fun json => (asTextMap? json).map fun _ => json),
   ("creationTimestamp", keepTime), ("deletionGracePeriodSeconds", keepInteger),
   ("finalizers", keepList keepText), ("generateName", keepText), ("generation", keepInteger),
   ("managedFields", keepList keepManager), ("ownerReferences", keepList keepOwner),
   ("resourceVersion", keepText), ("selfLink", keepText), ("uid", keepText)]

/-- The metadata in an object.  What nothing depends on is checked and kept for writing. -/
def ofJson? (json : Json) : Option Metadata := do
  let fields ← fields? json
  some
    { name := ← optional? asText? fields "name"
      namespaceName := ← optional? asText? fields "namespace"
      labels := ← optional? asTextMap? fields "labels"
      deletion := ← optional? Timestamp.ofJson? fields "deletionTimestamp"
      rest := ← keepFields keepers json }

/-- The shape of metadata, with the owners and managers of its object. -/
def shape : Shape :=
  let texts (names : List String) : List (String × Shape) := names.map (·, .text)
  let owner : Shape :=
    ClusterObject.shape "OwnerReference"
      (texts ["apiVersion", "kind", "name", "uid"] ++
        [("blockOwnerDeletion", .flag), ("controller", .flag)])
  let manager : Shape :=
    ClusterObject.shape "ManagedFieldsEntry"
      (texts ["apiVersion", "fieldsType", "manager", "operation", "subresource"] ++
        [("fieldsV1", .any), ("time", time)])
  ClusterObject.shape "ObjectMeta"
    (texts ["name", "namespace", "generateName", "resourceVersion", "selfLink", "uid"] ++
      [("annotations", .map .text), ("labels", .map .text), ("finalizers", .list .text),
       ("creationTimestamp", time), ("deletionTimestamp", time),
       ("deletionGracePeriodSeconds", .integer64), ("generation", .integer64),
       ("managedFields", .list manager), ("ownerReferences", .list owner)])

/-- An object with the fields that are known. -/
def toJson (metadata : Metadata) : Json :=
  let known {α : Type} (name : String) (encode : α → Json) (value : Option α) :=
    value.toList.map fun value => (name, encode value)
  .ofFields
    (metadata.rest ++ known "name" .string metadata.name ++
      known "namespace" .string metadata.namespaceName ++
      known "labels" (fun labels => .ofFields (labels.map fun (name, value) =>
        (name, .string value))) metadata.labels ++
      known "deletionTimestamp" timeJson metadata.deletion)

end Metadata

namespace Requirements

/-- A claim names a resource; the names are not kept. -/
private def claim? (json : Json) : Option Unit := do
  let _ ← optional? asText? (← fields? json) "name"
  some ()

/-- The requirements in an object; amounts that are missing are none. -/
def ofJson? (json : Json) : Option Requirements := do
  let fields ← fields? json
  let _ ← optional? (asList? claim?) fields "claims"
  some
    { requests := (← optional? asTextMap? fields "requests").getD []
      limits := (← optional? asTextMap? fields "limits").getD [] }

/-- The shape of requirements, with the claims that are only checked. -/
def shape : Shape :=
  ClusterObject.shape "ResourceRequirements"
    [("claims", .list (ClusterObject.shape "ResourceClaim" [("name", .text)])),
     ("requests", .map .text), ("limits", .map .text)]

end Requirements

namespace Pod

/-- A container without a name has the empty name. -/
private def container? (json : Json) : Option PodContainer := do
  let fields ← fields? json
  some
    { name := (← optional? asText? fields "name").getD ""
      requirements := ← optional? Requirements.ofJson? fields "resources" }

/-- The containers in a specification. -/
private def specification? (json : Json) : Option (List PodContainer) := do
  some ((← optional? (asList? container?) (← fields? json) "containers").getD [])

/-- The phase in a status. -/
private def phase? (json : Json) : Option (Option String) := do
  optional? asText? (← fields? json) "phase"

/-- The pod in an object, which may leave out its kind and its version but not name others. -/
def ofJson? (json : Json) : Option Pod := do
  let fields ← fields? json
  names? fields "apiVersion" "v1"
  names? fields "kind" "Pod"
  some
    { metadata := (← optional? Metadata.ofJson? fields "metadata").getD .empty
      containers := ← optional? specification? fields "spec"
      phase := (← optional? phase? fields "status").join }

/-- The shape of a pod, as far as the operator depends on it. -/
def shape : Shape :=
  let container :=
    ClusterObject.shape "Container" [("name", .text), ("resources", Requirements.shape)]
  .object "Pod"
    [("apiVersion", .exactly "v1"), ("kind", .exactly "Pod"),
     ("metadata", .nullable Metadata.shape),
     ("spec", .nullable (ClusterObject.shape "PodSpec" [("containers", .list container)])),
     ("status", .nullable (ClusterObject.shape "PodStatus" [("phase", .text)]))]

/-- How a pod stands in the text of an answer. -/
def form : Form Pod := ⟨shape, ofJson?⟩

end Pod

namespace ContainerMetrics

/-- The texts for both dimensions in a record; neither may be missing. -/
private def usage? (json : Json) : Option (PerDimension String) := do
  match ← entries? ["cpu", "memory"] json with
  | [cpu, memory] => some ⟨← required asText? cpu, ← required asText? memory⟩
  | _ => none

/-- The metrics of a container in a record of its name and its usage. -/
def ofJson? (json : Json) : Option ContainerMetrics := do
  match ← entries? ["name", "usage"] json with
  | [name, usage] => some ⟨← required asText? name, ← required usage? usage⟩
  | _ => none

/-- An object with the name and, in an object of its own, the usage. -/
def toJson (metrics : ContainerMetrics) : Json :=
  .ofFields
    [("name", .string metrics.name),
     ("usage", .ofFields
        [("cpu", .string metrics.usage.cpu), ("memory", .string metrics.usage.memory)])]

end ContainerMetrics

namespace PodMetrics

/-- The metrics of a pod in a record.  Only the metadata have to be given. -/
def ofJson? (json : Json) : Option PodMetrics := do
  match ← entries? ["metadata", "timestamp", "window", "containers"] json with
  | [metadata, timestamp, window, containers] =>
      some
        { metadata := ← required Metadata.ofJson? metadata
          timestamp := ← withDefault "" asText? timestamp
          window := ← withDefault "" asText? window
          containers := ← withDefault [] (asList? ContainerMetrics.ofJson?) containers }
  | _ => none

/-- The shape of the metrics of a pod. -/
def shape : Shape :=
  let usage := Shape.record "PodMetricsUsage" [("cpu", false, .text), ("memory", false, .text)]
  let container :=
    Shape.record "PodMetricsContainer" [("name", false, .text), ("usage", false, usage)]
  .record "PodMetrics"
    [("metadata", false, Metadata.shape), ("timestamp", true, .text), ("window", true, .text),
     ("containers", true, .list container)]

/-- How the metrics of a pod stand in the text of an answer. -/
def form : Form PodMetrics := ⟨shape, ofJson?⟩

/-- An object with all four fields, those too that are empty. -/
def toJson (metrics : PodMetrics) : Json :=
  .ofFields
    [("metadata", metrics.metadata.toJson), ("timestamp", .string metrics.timestamp),
     ("window", .string metrics.window),
     ("containers", .ofList ContainerMetrics.toJson metrics.containers)]

end PodMetrics

end PodSizing
