import PodSizing.Plan

/-!
# Batches

Plans are applied batch by batch.  A batch is a run of consecutive plans, each with its position
in the whole list, so that outcomes can be put back into the order of the plans.
-/

namespace PodSizing

/-- A plan with its position in the list of the cycle. -/
structure Job where
  position : Nat
  plan : Plan
  deriving DecidableEq

/-- Consecutive plans that are applied together. -/
structure Batch where
  index : Nat
  jobs : List Job
  deriving DecidableEq

namespace Batch

/-- Cuts a list into pieces of the given length, of which only the last may be shorter. -/
def chunks {α : Type} (size : Nat) (positive : 0 < size) (items : List α) : List (List α) :=
  if items.isEmpty then []
  else items.take size :: chunks size positive (items.drop size)
termination_by items.length
decreasing_by
  simp_all only [List.isEmpty_iff, List.length_drop]
  have := List.length_pos_iff.2 ‹items ≠ []›
  omega

/-- The plans with their positions. -/
def jobsOf (plans : List Plan) : List Job :=
  plans.zipIdx.map fun (plan, position) => ⟨position, plan⟩

/-- The plans in batches of at most the given size; size zero acts as one. -/
def partition (plans : List Plan) (size : Nat) : List Batch :=
  (chunks (max size 1) (Nat.le_max_right size 1) (jobsOf plans)).zipIdx.map
    fun (jobs, index) => ⟨index, jobs⟩

@[simp]
theorem chunks_nil {α : Type} (size : Nat) (positive : 0 < size) :
    chunks size positive ([] : List α) = [] := by
  simp [chunks]

/-- The pieces put together are the list. -/
theorem flatten_chunks {α : Type} (size : Nat) (positive : 0 < size) (items : List α) :
    (chunks size positive items).flatten = items := by
  fun_induction chunks size positive items with
  | case1 items empty => simp_all
  | case2 items nonempty ih => simp [ih]

end Batch

end PodSizing
