import PodSizing.Instant.Timestamp
import PodSizing.Json.Record
import PodSizing.Outcome

/-!
# Containers, plans and reports in JSON

Each type has a writer `toJson` and a reader `ofJson?`.  The readers take more than the writers
produce: records as arrays, unknown keys, names as objects.
-/

namespace PodSizing

open Json

namespace PodId

/-- An object with the namespace and the name. -/
def toJson (pod : PodId) : Json :=
  .ofFields [("namespace", .string pod.namespaceName), ("name", .string pod.name)]

/-- The pod in a record of its namespace and its name. -/
def ofJson? (json : Json) : Option PodId := do
  match ← entries? ["namespace", "name"] json with
  | [namespaceName, name] =>
      some ⟨← required asText? namespaceName, ← required asText? name⟩
  | _ => none

end PodId

namespace ContainerId

/-- An object with the pod, itself an object, and the container's name. -/
def toJson (id : ContainerId) : Json :=
  .ofFields [("pod", id.pod.toJson), ("container", .string id.container)]

/-- The container in a record of its pod and its name. -/
def ofJson? (json : Json) : Option ContainerId := do
  match ← entries? ["pod", "container"] json with
  | [pod, container] => some ⟨← required PodId.ofJson? pod, ← required asText? container⟩
  | _ => none

end ContainerId

namespace Allocation

/-- An object with the request and the limit; zero stands for what is not set here too. -/
def toJson (allocation : Allocation) : Json :=
  .ofFields [("request", .ofNat allocation.request), ("limit", .ofNat allocation.limit)]

/-- The allocation in a record.  Neither amount has a default. -/
def ofJson? (json : Json) : Option Allocation := do
  match ← entries? ["request", "limit"] json with
  | [request, limit] => some ⟨← required asNat? request, ← required asNat? limit⟩
  | _ => none

end Allocation

namespace Target

/-- An object with the container and an allocation for each dimension. -/
def toJson (target : Target) : Json :=
  .ofFields
    [("container", target.container.toJson), ("cpu", target.allocation.cpu.toJson),
     ("memory", target.allocation.memory.toJson)]

/-- The target in a record of the container and both allocations. -/
def ofJson? (json : Json) : Option Target := do
  match ← entries? ["container", "cpu", "memory"] json with
  | [container, cpu, memory] =>
      some
        { container := ← required ContainerId.ofJson? container
          allocation := ⟨← required Allocation.ofJson? cpu, ← required Allocation.ofJson? memory⟩ }
  | _ => none

end Target

namespace Sample

/-- An object with the container, the usage under keys that name its units, and the allocations. -/
def toJson (sample : Sample) : Json :=
  .ofFields
    [("container", sample.container.toJson), ("cpu_usage_millicores", .ofNat sample.usage.cpu),
     ("memory_usage_bytes", .ofNat sample.usage.memory), ("cpu", sample.allocation.cpu.toJson),
     ("memory", sample.allocation.memory.toJson)]

/-- The sample in a record of the container, both amounts in use and both allocations. -/
def ofJson? (json : Json) : Option Sample := do
  let names := ["container", "cpu_usage_millicores", "memory_usage_bytes", "cpu", "memory"]
  match ← entries? names json with
  | [container, cpuUsage, memoryUsage, cpu, memory] =>
      some
        { container := ← required ContainerId.ofJson? container
          usage := ⟨← required asNat? cpuUsage, ← required asNat? memoryUsage⟩
          allocation := ⟨← required Allocation.ofJson? cpu, ← required Allocation.ofJson? memory⟩ }
  | _ => none

end Sample

namespace Dimension

/-- The name of the dimension. -/
def toJson (dimension : Dimension) : Json := .string dimension.name

/-- The dimension that a bare name stands for. -/
def ofJson? (json : Json) : Option Dimension := (asName? json).bind ofName?

end Dimension

namespace Verdict

/-- The name of the verdict. -/
def toJson (verdict : Verdict) : Json := .string verdict.name

/-- The verdict that a bare name stands for. -/
def ofJson? (json : Json) : Option Verdict := (asName? json).bind ofName?

end Verdict

namespace Decision

/-- An object with all that was decided.  The utilization is written as a real number, those that
are whole included. -/
def toJson (decision : Decision) : Json :=
  .ofFields
    [("dimension", decision.dimension.toJson), ("verdict", decision.verdict.toJson),
     ("current_value", .ofNat decision.current), ("target_value", .ofNat decision.target),
     ("utilization_ratio", .number (.real decision.utilization))]

/-- The decision in a record whose utilization may be any number. -/
def ofJson? (json : Json) : Option Decision := do
  let names := ["dimension", "verdict", "current_value", "target_value", "utilization_ratio"]
  match ← entries? names json with
  | [dimension, verdict, current, target, utilization] =>
      some
        { dimension := ← required Dimension.ofJson? dimension
          verdict := ← required Verdict.ofJson? verdict
          current := ← required asNat? current
          target := ← required asNat? target
          utilization := ← required asReal? utilization }
  | _ => none

end Decision

namespace Plan

/-- An object with the container and, for each dimension, the decision and the allocation. -/
def toJson (plan : Plan) : Json :=
  .ofFields
    [("container", plan.container.toJson), ("cpu", plan.decisions.cpu.toJson),
     ("memory", plan.decisions.memory.toJson), ("cpu_spec", plan.allocation.cpu.toJson),
     ("memory_spec", plan.allocation.memory.toJson)]

/-- The plan in a record of the container, both decisions and both allocations. -/
def ofJson? (json : Json) : Option Plan := do
  match ← entries? ["container", "cpu", "memory", "cpu_spec", "memory_spec"] json with
  | [container, cpu, memory, cpuSpec, memorySpec] =>
      some
        { container := ← required ContainerId.ofJson? container
          decisions := ⟨← required Decision.ofJson? cpu, ← required Decision.ofJson? memory⟩
          allocation :=
            ⟨← required Allocation.ofJson? cpuSpec, ← required Allocation.ofJson? memorySpec⟩ }
  | _ => none

end Plan

namespace SkipReason

/-- The name of the reason. -/
def toJson (reason : SkipReason) : Json := .string reason.name

/-- The reason that a bare name stands for. -/
def ofJson? (json : Json) : Option SkipReason := (asName? json).bind ofName?

end SkipReason

namespace Status

/-- A status is a record of its label and, but for an applied one, its reason. -/
def toJson : Status → Json
  | .applied => .ofFields [("status", .string "applied")]
  | .skipped reason => .ofFields [("status", .string "skipped"), ("reason", reason.toJson)]
  | .failed reason => .ofFields [("status", .string "failed"), ("reason", .string reason)]

/-- The status with a label, where the name in its reason is read in the given way.  An applied
status may carry a null as its reason, and in an array it has to. -/
def ofEntries? (readName : Json → Option String) (label : String) (reason : Entry) :
    Option Status :=
  match label, reason with
  | "applied", .missing | "applied", .value .null => some .applied
  | "skipped", reason =>
      ((required readName reason).bind SkipReason.ofName?).map .skipped
  | "failed", reason => (required asText? reason).map .failed
  | _, _ => none

/-- In an object the name of a reason may carry an empty object; in an array the label has to be a
plain text. -/
def ofJson? (json : Json) : Option Status := do
  match json, ← entries? ["status", "reason"] json with
  | .array _, [label, reason] => ofEntries? asName? (← required asText? label) reason
  | _, [label, reason] => ofEntries? asEmptyName? (← required asName? label) reason
  | _, _ => none

end Status

namespace Timestamp

/-- The text of the timestamp, with a letter for the zone. -/
def toJson (timestamp : Timestamp) : Json := .string (timestamp.toText .letter)

/-- The timestamp in a text, of whatever zone. -/
def ofJson? (json : Json) : Option Timestamp := do (ofText (← asText? json)).toOption

end Timestamp

namespace Outcome

/-- An object with the plan, a status for each dimension and the time of the application. -/
def toJson (outcome : Outcome) : Json :=
  .ofFields
    [("plan", outcome.plan.toJson), ("cpu", outcome.statuses.cpu.toJson),
     ("memory", outcome.statuses.memory.toJson), ("applied_at", outcome.appliedAt.toJson)]

/-- The outcome in a record of the plan, both statuses and the time. -/
def ofJson? (json : Json) : Option Outcome := do
  match ← entries? ["plan", "cpu", "memory", "applied_at"] json with
  | [plan, cpu, memory, appliedAt] =>
      some
        { plan := ← required Plan.ofJson? plan
          statuses := ⟨← required Status.ofJson? cpu, ← required Status.ofJson? memory⟩
          appliedAt := ← required Timestamp.ofJson? appliedAt }
  | _ => none

end Outcome

namespace CycleReport

/-- An object with the time of the cycle, its counts and a list of its outcomes. -/
def toJson (report : CycleReport) : Json :=
  .ofFields
    [("cycle_timestamp", report.timestamp.toJson),
     ("total_containers_evaluated", .ofNat report.evaluated),
     ("samples_unavailable", .ofNat report.unavailable),
     ("plans_built", .ofNat report.plansBuilt), ("plans_deferred", .ofNat report.plansDeferred),
     ("outcomes", .ofList Outcome.toJson report.outcomes)]

/-- The report in a record, each of whose outcomes has to be readable. -/
def ofJson? (json : Json) : Option CycleReport := do
  let names :=
    ["cycle_timestamp", "total_containers_evaluated", "samples_unavailable", "plans_built",
     "plans_deferred", "outcomes"]
  match ← entries? names json with
  | [timestamp, evaluated, unavailable, plansBuilt, plansDeferred, outcomes] =>
      some
        { timestamp := ← required Timestamp.ofJson? timestamp
          evaluated := ← required asNat? evaluated
          unavailable := ← required asNat? unavailable
          plansBuilt := ← required asNat? plansBuilt
          plansDeferred := ← required asNat? plansDeferred
          outcomes := ← required (asList? Outcome.ofJson?) outcomes }
  | _ => none

end CycleReport

end PodSizing
