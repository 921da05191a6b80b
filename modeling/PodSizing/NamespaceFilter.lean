/-!
# Namespace filters

Which namespaces are looked at.  System and excluded namespaces never are; where some namespaces
are included by name, no others are.
-/

namespace PodSizing

/-- The namespaces to look at and to leave alone. -/
structure NamespaceFilter where
  /-- When not empty, the only namespaces to look at. -/
  included : List String
  /-- Left alone even when included. -/
  excluded : List String
  /-- The namespaces of the cluster's own pods, left alone as well. -/
  system : List String
  deriving DecidableEq

namespace NamespaceFilter

/-- Every namespace but those of the cluster itself. -/
def default : NamespaceFilter where
  included := []
  excluded := []
  system := ["kube-system", "kube-public", "kube-node-lease"]

/-- The namespace is looked at. -/
def allows (filter : NamespaceFilter) (name : String) : Bool :=
  !filter.system.contains name && !filter.excluded.contains name &&
    (filter.included.isEmpty || filter.included.contains name)

theorem allows_iff {filter : NamespaceFilter} {name : String} :
    filter.allows name = true ↔
      name ∉ filter.system ∧ name ∉ filter.excluded ∧
        (filter.included = [] ∨ name ∈ filter.included) := by
  simp [allows, and_assoc]

end NamespaceFilter

end PodSizing
