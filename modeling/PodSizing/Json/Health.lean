import PodSizing.Health
import PodSizing.Json.Plan

/-!
# Health in JSON

The JSON form of the health of the operator and of its parts.  A value that is not known is left
out.
-/

namespace PodSizing

open Json

namespace ComponentStatus

/-- The name of the status. -/
def toJson (status : ComponentStatus) : Json := .string status.name

/-- The status that a bare name stands for. -/
def ofJson? (json : Json) : Option ComponentStatus := (asName? json).bind ofName?

end ComponentStatus

/-- A field for a value that is known. -/
def knownField {α : Type} (name : String) (encode : α → Json) (value : Option α) :
    List (String × Json) :=
  value.toList.map fun value => (name, encode value)

namespace ComponentHealth

/-- An object with the status, the message if there is one, and the time of the last check. -/
def toJson (health : ComponentHealth) : Json :=
  .ofFields
    ([("status", health.status.toJson)] ++ knownField "message" .string health.message ++
      [("last_check", health.lastCheck.toJson)])

/-- The health of a part in a record whose message may be null or missing. -/
def ofJson? (json : Json) : Option ComponentHealth := do
  match ← entries? ["status", "message", "last_check"] json with
  | [status, message, lastCheck] =>
      some
        { status := ← required ComponentStatus.ofJson? status
          message := ← optional asText? message
          lastCheck := ← required Timestamp.ofJson? lastCheck }
  | _ => none

end ComponentHealth

namespace CycleHealth

/-- An object with the times of the last success and the last failure, as far as there were any,
and the number of failures. -/
def toJson (cycles : CycleHealth) : Json :=
  .ofFields
    (knownField "last_success" Timestamp.toJson cycles.lastSuccess ++
      knownField "last_failure" Timestamp.toJson cycles.lastFailure ++
      [("consecutive_failures", .ofNat cycles.consecutiveFailures)])

/-- The health of the cycles in a record whose number of failures has 32 bits. -/
def ofJson? (json : Json) : Option CycleHealth := do
  match ← entries? ["last_success", "last_failure", "consecutive_failures"] json with
  | [lastSuccess, lastFailure, consecutiveFailures] =>
      some
        { lastSuccess := ← optional Timestamp.ofJson? lastSuccess
          lastFailure := ← optional Timestamp.ofJson? lastFailure
          consecutiveFailures := ← required (asNatBelow? (Nat.pow 2 32)) consecutiveFailures }
  | _ => none

end CycleHealth

namespace HealthReport

/-- An object with the status, the parts in an object by their names, and the cycles. -/
def toJson (report : HealthReport) : Json :=
  .ofFields
    [("status", report.status.toJson),
     ("components", .ofFields (report.components.map fun (name, health) => (name, health.toJson))),
     ("cycles", report.cycles.toJson)]

/-- The parts in the order of their names. -/
def components? : Json → Option (List (String × ComponentHealth))
  | .object fields =>
      (sortFields fields).mapM fun (name, json) => (ComponentHealth.ofJson? json).map (name, ·)
  | _ => none

/-- The report in a record.  The parts may have any names. -/
def ofJson? (json : Json) : Option HealthReport := do
  match ← entries? ["status", "components", "cycles"] json with
  | [status, components, cycles] =>
      some
        { status := ← required ComponentStatus.ofJson? status
          components := ← required components? components
          cycles := ← required CycleHealth.ofJson? cycles }
  | _ => none

end HealthReport

namespace Readiness

/-- An object with the answer, and the reason if there is one. -/
def toJson (readiness : Readiness) : Json :=
  .ofFields ([("ready", .bool readiness.ready)] ++ knownField "reason" .string readiness.reason)

/-- The readiness in a record whose reason may be null or missing. -/
def ofJson? (json : Json) : Option Readiness := do
  match ← entries? ["ready", "reason"] json with
  | [ready, reason] =>
      some { ready := ← required asBool? ready, reason := ← optional asText? reason }
  | _ => none

end Readiness

end PodSizing
