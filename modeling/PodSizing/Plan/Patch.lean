import PodSizing.Plan

/-!
# Patches

What a plan writes over the resources of its container.  In each dimension the target replaces the
baseline: the limit, or the request where no limit is set.  A request that equals the limit
follows it, and a request above the target comes down with the limit; any other request stays.
-/

namespace PodSizing

/-- New values for one dimension; a value that is not given stays as it is. -/
structure Patch where
  dimension : Dimension
  request : Option Nat
  limit : Option Nat
  /-- The plan lowers what is configured. -/
  decrease : Bool
  deriving DecidableEq

namespace Patch

/-- The patch that moves the baseline of an allocation to a target. -/
def ofDecision (dimension : Dimension) (decision : Decision) (allocation : Allocation) : Patch :=
  let target := decision.target
  if 0 < allocation.limit then
    let follows := allocation.request = allocation.limit ∨ target < allocation.request
    { dimension := dimension
      request := if follows then some target else none
      limit := some target
      decrease := decision.isDecrease }
  else
    { dimension := dimension
      request := some target
      limit := none
      decrease := decision.isDecrease }

/-- The allocation with the values of the patch written over it. -/
def write (patch : Patch) (allocation : Allocation) : Allocation where
  request := patch.request.getD allocation.request
  limit := patch.limit.getD allocation.limit

/-- Writing the patch of a decision makes its target the baseline. -/
theorem baseline_write_ofDecision (dimension : Dimension) (decision : Decision)
    (allocation : Allocation) :
    ((ofDecision dimension decision allocation).write allocation).baseline = decision.target := by
  by_cases limited : 0 < allocation.limit
  · by_cases follows : allocation.request = allocation.limit ∨ decision.target < allocation.request
    · simp [ofDecision, write, Allocation.baseline, limited, follows]
    · simp [ofDecision, write, Allocation.baseline, limited, follows]
      omega
  · simp [ofDecision, write, Allocation.baseline, limited]

end Patch

/-- The patch of a plan for one dimension. -/
def Plan.patch (plan : Plan) (dimension : Dimension) : Patch :=
  .ofDecision dimension (plan.decisions.get dimension) (plan.allocation.get dimension)

/-- What the runtime is asked to apply to one container in one call. -/
structure ResizeRequest where
  container : ContainerId
  patches : List Patch
  deriving DecidableEq

/-- The request for some dimensions of a plan. -/
def Plan.request (plan : Plan) (dimensions : List Dimension) : ResizeRequest :=
  ⟨plan.container, dimensions.map plan.patch⟩

namespace ResizeRequest

/-- The dimensions of the patches, in their order. -/
def dimensions (request : ResizeRequest) : List Dimension :=
  request.patches.map Patch.dimension

/-- The dimensions that the request lowers. -/
def decreasing (request : ResizeRequest) : List Dimension :=
  (request.patches.filter Patch.decrease).map Patch.dimension

end ResizeRequest

@[simp]
theorem Plan.dimension_patch (plan : Plan) (dimension : Dimension) :
    (plan.patch dimension).dimension = dimension := by
  simp only [Plan.patch, Patch.ofDecision]
  split <;> rfl

@[simp]
theorem Plan.decrease_patch (plan : Plan) (dimension : Dimension) :
    (plan.patch dimension).decrease = (plan.decisions.get dimension).isDecrease := by
  simp only [Plan.patch, Patch.ofDecision]
  split <;> rfl

@[simp]
theorem ResizeRequest.dimensions_request (plan : Plan) (dimensions : List Dimension) :
    (plan.request dimensions).dimensions = dimensions := by
  simp [ResizeRequest.dimensions, Plan.request, Function.comp_def]

theorem ResizeRequest.decreasing_request (plan : Plan) (dimensions : List Dimension) :
    (plan.request dimensions).decreasing =
      dimensions.filter fun dimension => (plan.decisions.get dimension).isDecrease := by
  simp [ResizeRequest.decreasing, Plan.request, List.filter_map, Function.comp_def]

end PodSizing
