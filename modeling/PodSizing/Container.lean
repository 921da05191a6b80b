import PodSizing.Dimension

/-!
# Containers

The names of pods and containers, the resources configured for a container, and what one cycle
knows about it: a target before its usage was read and a sample after.
-/

namespace PodSizing

/-- The name of a pod within the cluster. -/
structure PodId where
  namespaceName : String
  name : String
  deriving DecidableEq

/-- Namespace and name with a slash between them. -/
def PodId.toText (pod : PodId) : String :=
  pod.namespaceName ++ "/" ++ pod.name

/-- The name of a container within the cluster. -/
structure ContainerId where
  pod : PodId
  container : String
  deriving DecidableEq

/-- The pod and the container with a slash between them. -/
def ContainerId.toText (id : ContainerId) : String :=
  id.pod.toText ++ "/" ++ id.container

/-- The request and limit configured in one dimension: millicores of CPU or bytes of memory.
Zero stands for a value that is not set. -/
structure Allocation where
  request : Nat
  limit : Nat
  deriving DecidableEq

namespace Allocation

/-- Neither request nor limit is set. -/
def unset : Allocation := ⟨0, 0⟩

/-- The value that usage is measured against: the limit, or the request where no limit is set. -/
def baseline (allocation : Allocation) : Nat :=
  if 0 < allocation.limit then allocation.limit else allocation.request

/-- Neither request nor limit is set. -/
def isUnset (allocation : Allocation) : Bool :=
  allocation.request == 0 && allocation.limit == 0

theorem isUnset_iff {allocation : Allocation} :
    allocation.isUnset = true ↔ allocation = unset := by
  obtain ⟨request, limit⟩ := allocation
  simp [isUnset, unset]

/-- Nothing is set exactly when there is nothing to measure against. -/
theorem isUnset_iff_baseline {allocation : Allocation} :
    allocation.isUnset = true ↔ allocation.baseline = 0 := by
  obtain ⟨request, limit⟩ := allocation
  simp only [isUnset, baseline, Bool.and_eq_true, beq_iff_eq]
  split <;> omega

end Allocation

/-- A container to look at in this cycle, with what is configured for it. -/
structure Target where
  container : ContainerId
  allocation : PerDimension Allocation
  deriving DecidableEq

/-- The usage of a container in one cycle: millicores and bytes. -/
structure Sample where
  container : ContainerId
  usage : PerDimension Nat
  allocation : PerDimension Allocation
  deriving DecidableEq

end PodSizing
