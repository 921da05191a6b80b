import PodSizing.Json.Plan
import PodSizing.Json.Writer
import PodSizing.Simulation.ClusterTrial
import PodSizing.Simulation.LockTrial
import PodSizing.Simulation.LoopTrial

/-!
# Scenarios in JSON

How the parts of a simulation are written in JSON: containers with default names, what is
configured and used, rules of a runtime, changes of a source and tasks that take locks.  A value
that is null counts as not given.
-/

namespace PodSizing

open Json

namespace Scenario

/-- A field that may be missing or null. -/
def field? (json : Json) (key : String) : Option Json :=
  match json.field? key with
  | some .null => none
  | found => found

/-- A field with a default. -/
def fieldOr? {α : Type} (default : α) (decode : Json → Option α) (json : Json) (key : String) :
    Option α :=
  match field? json key with
  | some value => decode value
  | none => some default

/-- A field that may be missing. -/
def optional? {α : Type} (decode : Json → Option α) (json : Json) (key : String) :
    Option (Option α) :=
  fieldOr? none (fun value => (decode value).map some) json key

/-- A duration in milliseconds, zero where it is not given. -/
def millis? (json : Json) (key : String) : Option Duration :=
  (fieldOr? 0 asNat? json key).map .ofMillis

/-- A pod with a default for its namespace and one for its name. -/
def pod? (json : Json) : Option PodId := do
  some ⟨← fieldOr? "default" asText? json "ns", ← fieldOr? "web-0" asText? json "pod"⟩

/-- A container of a pod, whose name has a default as well. -/
def container? (json : Json) : Option ContainerId := do
  some ⟨← pod? json, ← fieldOr? "app" asText? json "container"⟩

/-- Request and limit in an array. -/
def asAllocation? : Json → Option Allocation
  | .array [request, limit] => do some ⟨← asNat? request, ← asNat? limit⟩
  | _ => none

/-- What is configured under a key; where it is not given, nothing is. -/
def allocation? (json : Json) (key : String) : Option Allocation :=
  fieldOr? .unset asAllocation? json key

/-- A container with what is configured for it. -/
def target? (json : Json) : Option Target := do
  some ⟨← container? json, ← allocation? json "cpu", ← allocation? json "memory"⟩

/-- Millicores and bytes in an array. -/
def asUsage? : Json → Option (PerDimension Nat)
  | .array [cpu, memory] => do some ⟨← asNat? cpu, ← asNat? memory⟩
  | _ => none

/-- A target with its usage; where it is not given, nothing is used. -/
def sample? (json : Json) : Option Sample := do
  let target ← target? json
  some ⟨target.container, ← fieldOr? ⟨0, 0⟩ asUsage? json "usage", target.allocation⟩

/-- A patch.  Only its dimension has to be given. -/
def patch? (json : Json) : Option Patch := do
  some
    { dimension := ← (field? json "dimension").bind Dimension.ofJson?
      request := ← optional? asNat? json "request"
      limit := ← optional? asNat? json "limit"
      decrease := ← fieldOr? false asBool? json "decrease" }

/-- A patch; what it leaves as it is is null. -/
def patchJson (patch : Patch) : Json :=
  .ofFields
    [("dimension", patch.dimension.toJson), ("request", .ofOption .ofNat patch.request),
     ("limit", .ofOption .ofNat patch.limit), ("decrease", .bool patch.decrease)]

/-- What a plan changes, and what it asks of the runtime. -/
def planFields (plan : Plan) : List (String × Json) :=
  let request := plan.request plan.changing
  let list := Json.ofList Dimension.toJson
  [("container", .string plan.container.toText), ("pod", .string plan.container.pod.toText),
   ("changing", list plan.changing), ("patches", .ofList patchJson request.patches),
   ("dimensions", list request.dimensions), ("decreasing", list request.decreasing)]

/-- What became of a plan. -/
def outcomeJson (outcome : Outcome) : Json :=
  .ofFields
    [("container", .string outcome.plan.container.toText),
     ("cpu", outcome.statuses.cpu.toJson), ("memory", outcome.statuses.memory.toJson),
     ("any_applied", .bool outcome.anyApplied), ("any_failed", .bool outcome.anyFailed)]

/-- The operator's identity, given as such or by variables of its environment. -/
def identity? (json : Json) : Option Identity := do
  let identity := (field? json "identity").getD (.object [])
  let appName ← fieldOr? "right-sizer" asText? identity "app_name"
  match field? identity "env" with
  | some environment =>
      some ⟨appName, Identity.ofVariable (← optional? asText? environment "POD_NAME"),
        Identity.ofVariable (← optional? asText? environment "POD_NAMESPACE")⟩
  | none =>
      some ⟨appName, ← optional? asText? identity "pod_name",
        ← optional? asText? identity "pod_namespace"⟩

/-- What a rule makes of a call; success where nothing else is said. -/
def answer? (json : Json) : Option Simulation.Answer := do
  let reason := fieldOr? "" asText? json "reason"
  match ← optional? asText? json "result" with
  | none => some (.given (.ok ()))
  | some "failed" => some (.given (.error (.failed (← reason))))
  | some "timeout" => some (.given (.error (.timeout (← millis? json "timeout_ms"))))
  | some "rejected" =>
      let rejected ← fieldOr? [] (asList? Dimension.ofJson?) json "rejected"
      some (.given (.error (.rejected rejected (← reason))))
  | some "reject_decreases" => some (.rejectDecreases (← reason))
  | some "api" => some (.apiError (← (field? json "code").bind asNat?) (← reason))
  | some "panic" => some .breakDown
  | some _ => none

/-- A rule of a scripted runtime.  What it does not give is not compared. -/
def rule? (json : Json) : Option Simulation.Rule := do
  some
    { namespaceName := ← optional? asText? json "ns"
      pod := ← optional? asText? json "pod"
      container := ← optional? asText? json "container"
      attempt := ← optional? asNat? json "attempt"
      dimensions := ← optional? (asList? Dimension.ofJson?) json "dims"
      delay := ← millis? json "delay_ms"
      answer := ← answer? json }

/-- The rules of a scripted runtime; where they are not given, there are none. -/
def script? (json : Json) (key : String) : Option Simulation.Script :=
  fieldOr? [] (asList? rule?) json key

/-- A call with its times in milliseconds. -/
def callJson (timed : Simulation.TimedCall) : Json :=
  let request := timed.call.request
  .ofFields
    [("container", .string request.container.toText),
     ("patches", .ofList patchJson request.patches), ("start", .ofNat timed.start.wholeMillis),
     ("end", .ofOption (fun time => .ofNat time.wholeMillis) timed.finished?)]

/-- Usage, or a message that says why it cannot be read, by container. -/
def usages? : Json → Option (List (String × Simulation.ScriptedUsage))
  | .object fields => fields.mapM fun (container, json) =>
      match json with
      | .string message => some (container, .failure message)
      | json => (asUsage? json).map fun amounts => (container, .usage amounts)
  | _ => none

/-- A source that keeps what is not given, but for the error of its listing. -/
def source? (kept : Simulation.Source) (json : Json) : Option Simulation.Source := do
  some
    { targets := ← fieldOr? kept.targets (asList? target?) json "targets"
      usage := ← fieldOr? kept.usage usages? json "usage"
      listError := ← optional? (asList? asText?) json "list_error" }

/-- A change of a source.  A delay and an error of the listing that it does not give end with it. -/
def change? (json : Json) : Option Simulation.SourceChange := do
  some
    { time := ← millis? json "at_ms"
      targets := ← optional? (asList? target?) json "targets"
      usage := ← optional? usages? json "usage"
      listError := ← optional? (asList? asText?) json "list_error"
      listDelay := ← millis? json "list_delay_ms" }

/-- A source of a loop with its changes, nothing to list where no targets are given. -/
def slowSource? (json : Json) : Option Simulation.SlowSource := do
  some
    { source := ← source? ⟨[], [], none⟩ json
      listDelay := ← millis? json "list_delay_ms"
      changes := ← fieldOr? [] (asList? change?) json "changes" }

/-- The text of a body: a text as it is, and any other JSON in compact form. -/
def bodyText : Option Json → String
  | some (.string text) => text
  | some json => json.toText
  | none => Json.null.toText

/-- A route of a server: a broken connection where a failure is given, else an answer. -/
def route? (json : Json) : Option Simulation.Route := do
  let status ← fieldOr? 200 asNat? json "status"
  let failure ← optional? asText? json "fail"
  some
    { method := ← optional? asText? json "method"
      path := ← optional? asText? json "path"
      reply := match failure with
        | some message => .broken message
        | none => .answer status (bodyText (json.field? "body"))
      once := ← fieldOr? false asBool? json "once" }

/-- The routes of a server, where some are given. -/
def routes? (json : Json) : Option (Option (List Simulation.Route)) :=
  optional? (asList? route?) json "routes"

/-- A request as it was sent. -/
def requestJson (request : ApiRequest) : Json :=
  .ofFields
    ([("method", .string request.method), ("uri", .string (String.ofList request.sentTarget))] ++
      match request.content with
      | some (type, body) => [("content_type", .string type), ("body", body)]
      | none => [])

/-- A task that takes the lock of a pod at a time and holds it for a while. -/
def lockTask? (json : Json) : Option Simulation.LockTask := do
  some ⟨← pod? json, ← millis? json "at_ms", ← millis? json "hold_ms"⟩

end Scenario

end PodSizing
