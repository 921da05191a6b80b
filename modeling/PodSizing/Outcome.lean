import PodSizing.Instant.Timestamp
import PodSizing.Plan

/-!
# Outcomes

What became of a plan that was attempted, in each dimension, and the report of a whole cycle.
-/

namespace PodSizing

/-- Why a dimension was left alone on purpose. -/
inductive SkipReason where
  /-- The plan does not change the dimension. -/
  | noChange
  /-- The runtime does not lower the value of a running container. -/
  | decreaseNotPermitted
  /-- Nothing is sent to the runtime in a dry run. -/
  | dryRun
  deriving DecidableEq

namespace SkipReason

/-- The name of a reason in JSON and in events. -/
def name : SkipReason → String
  | .noChange => "no_change"
  | .decreaseNotPermitted => "decrease_not_permitted"
  | .dryRun => "dry_run"

/-- The reason with the given name. -/
def ofName? : String → Option SkipReason
  | "no_change" => some .noChange
  | "decrease_not_permitted" => some .decreaseNotPermitted
  | "dry_run" => some .dryRun
  | _ => none

theorem ofName?_name (reason : SkipReason) : ofName? reason.name = some reason := by
  cases reason <;> rfl

/-- The reason in words. -/
def message : SkipReason → String
  | .noChange => "no change planned"
  | .decreaseNotPermitted => "decrease not permitted in place"
  | .dryRun => "dry run"

end SkipReason

/-- What became of one dimension of a plan. -/
inductive Status where
  | applied
  | skipped (reason : SkipReason)
  | failed (reason : String)
  deriving DecidableEq

namespace Status

/-- The kind of status, under which it is counted. -/
def label : Status → String
  | .applied => "applied"
  | .skipped _ => "skipped"
  | .failed _ => "failed"

/-- The dimension was changed. -/
def isApplied : Status → Bool
  | .applied => true
  | _ => false

/-- The dimension was to be changed and may not have been. -/
def isFailed : Status → Bool
  | .failed _ => true
  | _ => false

end Status

/-- What became of both dimensions of a plan. -/
abbrev Statuses := PerDimension Status

namespace Statuses

/-- Nothing was to be changed. -/
def unchanged : Statuses := ⟨.skipped .noChange, .skipped .noChange⟩

/-- Gives one status to some dimensions. -/
def setAll (statuses : Statuses) (dimensions : List Dimension) (status : Status) : Statuses :=
  dimensions.foldl (fun statuses dimension => statuses.set dimension status) statuses

theorem get_setAll (statuses : Statuses) (dimensions : List Dimension) (status : Status)
    (dimension : Dimension) :
    (setAll statuses dimensions status).get dimension =
      if dimension ∈ dimensions then status else statuses.get dimension := by
  induction dimensions generalizing statuses with
  | nil => rfl
  | cons head rest ih =>
      rw [setAll, List.foldl_cons, ← setAll, ih]
      by_cases inRest : dimension ∈ rest
      · simp [inRest]
      · simp [inRest, PerDimension.get_set]

end Statuses

/-- What became of an attempted plan.  Written once and never changed. -/
structure Outcome where
  plan : Plan
  statuses : Statuses
  appliedAt : Timestamp
  deriving DecidableEq

namespace Outcome

/-- A dimension was changed. -/
def anyApplied (outcome : Outcome) : Bool :=
  outcome.statuses.cpu.isApplied || outcome.statuses.memory.isApplied

/-- A dimension has failed. -/
def anyFailed (outcome : Outcome) : Bool :=
  outcome.statuses.cpu.isFailed || outcome.statuses.memory.isFailed

end Outcome

/-- The summary of a finished cycle. -/
structure CycleReport where
  /-- The instant as of which the cycle ran. -/
  timestamp : Timestamp
  /-- Containers whose usage was read. -/
  evaluated : Nat
  /-- Containers whose usage could not be read. -/
  unavailable : Nat
  plansBuilt : Nat
  /-- Plans put off because the cycle had run for too long. -/
  plansDeferred : Nat
  outcomes : List Outcome
  deriving DecidableEq

/-- The number of dimensions with a status of the given label. -/
def CycleReport.countStatus (report : CycleReport) (label : String) : Nat :=
  ((report.outcomes.flatMap fun outcome => outcome.statuses.toList).filter
    fun status => status.label == label).length

end PodSizing
