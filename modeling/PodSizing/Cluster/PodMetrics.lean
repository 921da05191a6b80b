import PodSizing.Cluster.Pod
import PodSizing.Event

/-!
# Pod metrics

The usage of the containers of a pod as the metrics API reports it, in quantity texts.  An entry
that cannot be read is left out.
-/

namespace PodSizing

/-- The usage of one container, CPU and memory as quantity texts. -/
structure ContainerMetrics where
  name : String
  usage : PerDimension String
  deriving DecidableEq

/-- The usage of a pod's containers. -/
structure PodMetrics where
  metadata : Metadata
  timestamp : String
  window : String
  containers : List ContainerMetrics

namespace ContainerMetrics

/-- Millicores and bytes. -/
def amounts (metrics : ContainerMetrics) : Except QuantityError (PerDimension Nat) := do
  let cpu ← Quantity.amount .cpu metrics.usage.cpu
  let memory ← Quantity.amount .memory metrics.usage.memory
  pure ⟨cpu, memory⟩

end ContainerMetrics

namespace PodMetrics

/-- The containers with their names in the cluster; none when the pod is not named. -/
def named (metrics : PodMetrics) : List (ContainerId × ContainerMetrics) :=
  match metrics.metadata.podId? with
  | some pod => metrics.containers.map fun container => (⟨pod, container.name⟩, container)
  | none => []

/-- The usage of each container that can be read. -/
def usage (metrics : PodMetrics) : List (ContainerId × PerDimension Nat) :=
  metrics.named.filterMap fun (id, container) =>
    container.amounts.toOption.map fun amounts => (id, amounts)

/-- The events for entries that cannot be read. -/
def usageEvents (metrics : PodMetrics) : List Event :=
  metrics.named.flatMap fun (id, container) =>
    match container.amounts with
    | .ok _ => []
    | .error error =>
        [⟨.warn, "Unparseable usage in pod metrics",
          [("container", .text id.toText), ("error", .text error.message)]⟩]

/-- The same usage under another pod name. -/
def rename (metrics : PodMetrics) (name : String) : PodMetrics :=
  { metrics with metadata := { metrics.metadata with name := some name } }

end PodMetrics

end PodSizing
