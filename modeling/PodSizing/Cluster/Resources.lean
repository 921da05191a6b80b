import PodSizing.Container
import PodSizing.Plan.Patch
import PodSizing.Quantity
import PodSizing.Quantity.Writer

/-!
# Resources of a container

The cluster keeps requests and limits as quantity texts under resource names.
`Requirements.allocations` reads those of the two dimensions; a name that is missing reads as a
value that is not set.  `Requirements.merge` writes patches over them, as the cluster does with
the body of a resize.
-/

namespace PodSizing

/-- The amount of a dimension that a quantity text stands for. -/
def Quantity.amount : Dimension → String → Except QuantityError Nat
  | .cpu => Quantity.millicores
  | .memory => Quantity.wholeBytes

/-- Requests and limits by resource name. -/
structure Requirements where
  requests : List (String × String)
  limits : List (String × String)
  deriving DecidableEq

/-- A quantity of a dimension that cannot be read. -/
structure RequirementError where
  dimension : Dimension
  cause : QuantityError
  deriving DecidableEq

namespace RequirementError

/-- What could not be read. -/
def message (error : RequirementError) : String :=
  "invalid " ++ error.dimension.name ++ " quantity"

/-- What could not be read, and why. -/
def chain (error : RequirementError) : String := error.message ++ ": " ++ error.cause.message

end RequirementError

namespace Requirements

/-- Nothing is configured. -/
def none : Requirements := ⟨[], []⟩

/-- The amount under the name of a dimension, zero where there is none. -/
def amount (dimension : Dimension) (quantities : List (String × String)) :
    Except RequirementError Nat :=
  match quantities.lookup dimension.name with
  | some text => (Quantity.amount dimension text).mapError (⟨dimension, ·⟩)
  | .none => .ok 0

/-- Request and limit of a dimension. -/
def allocation (requirements : Requirements) (dimension : Dimension) :
    Except RequirementError Allocation := do
  let request ← amount dimension requirements.requests
  let limit ← amount dimension requirements.limits
  pure ⟨request, limit⟩

/-- Requests and limits of both dimensions. -/
def allocations (requirements : Requirements) :
    Except RequirementError (PerDimension Allocation) := do
  let cpu ← requirements.allocation .cpu
  let memory ← requirements.allocation .memory
  pure ⟨cpu, memory⟩

/-- Replaces the text under a name, or adds it. -/
def write (quantities : List (String × String)) (name text : String) : List (String × String) :=
  (name, text) :: quantities.filter fun entry => entry.1 != name

theorem lookup_write (quantities : List (String × String)) (name text other : String) :
    (write quantities name text).lookup other =
      if other = name then some text else quantities.lookup other := by
  by_cases same : other = name
  · simp [write, same]
  · simp only [write, List.lookup_cons, beq_eq_false_iff_ne.2 same, if_neg same]
    induction quantities with
    | nil => rfl
    | cons head rest ih =>
        obtain ⟨key, value⟩ := head
        by_cases equal : key = name
        · have differs : (other == name) = false := by simp [same]
          rw [equal, List.filter_cons_of_neg (by simp), ih, List.lookup_cons, differs]
        · simp [equal, List.lookup_cons, ih]

/-- The requirements with the values of a patch written over them. -/
def writePatch (requirements : Requirements) (patch : Patch) : Requirements :=
  let text (value : Nat) := Quantity.text patch.dimension value
  { requests := match patch.request with
      | some value => write requirements.requests patch.dimension.name (text value)
      | .none => requirements.requests
    limits := match patch.limit with
      | some value => write requirements.limits patch.dimension.name (text value)
      | .none => requirements.limits }

/-- The requirements with all patches written over them. -/
def merge (requirements : Requirements) (patches : List Patch) : Requirements :=
  patches.foldl writePatch requirements

end Requirements

end PodSizing
