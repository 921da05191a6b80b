import PodSizing.Cluster.Resources
import PodSizing.Instant.Timestamp
import PodSizing.Json

/-!
# Pods

What the operator reads of a pod of the cluster.
-/

namespace PodSizing

/-- The names and labels of an object of the cluster. -/
structure Metadata where
  name : Option String
  namespaceName : Option String
  labels : Option (List (String × String))
  /-- When the object is to be deleted. -/
  deletion : Option Timestamp
  /-- All other fields, as they are written again. -/
  rest : List (String × Json)

namespace Metadata

/-- An object about which nothing is known. -/
def empty : Metadata := ⟨none, none, none, none, []⟩

/-- The value of a label. -/
def label? (metadata : Metadata) (name : String) : Option String :=
  (metadata.labels.getD []).lookup name

/-- The pod that the names are those of. -/
def podId? (metadata : Metadata) : Option PodId := do
  some ⟨← metadata.namespaceName, ← metadata.name⟩

end Metadata

/-- A container of a pod. -/
structure PodContainer where
  name : String
  /-- What is configured, if anything. -/
  requirements : Option Requirements
  deriving DecidableEq

/-- A pod of the cluster. -/
structure Pod where
  metadata : Metadata
  /-- The containers, where the pod has a specification. -/
  containers : Option (List PodContainer)
  phase : Option String

end PodSizing
