import PodSizing.Cluster.Pod
import PodSizing.Event
import PodSizing.NamespaceFilter

/-!
# Selection of containers

Which containers are looked at: those of running pods in allowed namespaces that are not about to
be deleted, do not belong to the cluster itself and are not the operator, as far as something is
configured for them and can be read.
-/

namespace PodSizing

/-- How the operator knows its own pod. -/
structure Identity where
  /-- The name under which the operator is labelled; an empty name matches no label. -/
  appName : String
  podName : Option String
  podNamespace : Option String
  deriving DecidableEq

namespace Identity

/-- The name of a variable's value; an empty value counts as none. -/
def ofVariable (value : Option String) : Option String :=
  value.filter fun text => !text.isEmpty

/-- The pod is labelled as the operator. -/
def isLabelled (identity : Identity) (metadata : Metadata) : Bool :=
  !identity.appName.isEmpty &&
    metadata.label? "app.kubernetes.io/name" == some identity.appName

/-- The pod has the name and the namespace of the operator, where both are known. -/
def isNamed (identity : Identity) (metadata : Metadata) : Bool :=
  match identity.podName, identity.podNamespace with
  | some name, some namespaceName =>
      metadata.name == some name && metadata.namespaceName == some namespaceName
  | _, _ => false

/-- The pod is the operator itself. -/
def isSelf (identity : Identity) (metadata : Metadata) : Bool :=
  identity.isLabelled metadata || identity.isNamed metadata

end Identity

/-- Labels of pods that belong to the cluster itself. -/
def systemLabels : List (String × List String) :=
  let controlPlane := ["control-plane", "etcd", "kube-scheduler", "kube-controller-manager"]
  [("component", controlPlane), ("tier", controlPlane), ("k8s-app", ["metrics-server"])]

/-- The pod belongs to the cluster itself. -/
def Metadata.isSystem (metadata : Metadata) : Bool :=
  systemLabels.any fun (name, values) => (metadata.label? name).any values.contains

/-- What decides whether a pod is looked at. -/
structure Selector where
  filter : NamespaceFilter
  identity : Identity
  deriving DecidableEq

namespace Selector

/-- The containers of the pod may be resized. -/
def admits (selector : Selector) (pod : Pod) : Bool :=
  let metadata := pod.metadata
  metadata.namespaceName.any selector.filter.allows && pod.phase == some "Running" &&
    metadata.deletion.isNone && !metadata.isSystem && !selector.identity.isSelf metadata

/-- What is configured for a container; nothing when no requirements are given. -/
def allocations (container : PodContainer) :
    Except RequirementError (PerDimension Allocation) :=
  (container.requirements.getD .none).allocations

/-- The target of a container for which something is configured. -/
def target? (pod : PodId) (container : PodContainer) : Option Target :=
  match allocations container with
  | .ok allocations =>
      if allocations.cpu.isUnset && allocations.memory.isUnset then none
      else some ⟨⟨pod, container.name⟩, allocations⟩
  | .error _ => none

/-- The event for a container that is left out. -/
def containerEvents (pod : PodId) (container : PodContainer) : List Event :=
  let id : ContainerId := ⟨pod, container.name⟩
  match allocations container with
  | .ok allocations =>
      if allocations.cpu.isUnset && allocations.memory.isUnset then
        [⟨.debug, "No resources configured, skipping", [("container", .text id.toText)]⟩]
      else []
  | .error error =>
      [⟨.warn, "Unparseable resources, skipping",
        [("container", .text id.toText), ("error", .text error.message)]⟩]

/-- The containers of a pod that may be looked at, with the name of the pod. -/
def candidates (selector : Selector) (pod : Pod) : List (PodId × PodContainer) :=
  if selector.admits pod then
    match pod.metadata.podId? with
    | some id => (pod.containers.getD []).map fun container => (id, container)
    | none => []
  else []

/-- The targets of a pod. -/
def select (selector : Selector) (pod : Pod) : List Target :=
  (selector.candidates pod).filterMap fun (id, container) => target? id container

/-- The events for the containers of a pod. -/
def selectEvents (selector : Selector) (pod : Pod) : List Event :=
  (selector.candidates pod).flatMap fun (id, container) => containerEvents id container

end Selector

end PodSizing
