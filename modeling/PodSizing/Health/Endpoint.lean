import PodSizing.Json.Health

/-!
# Health endpoints

The answers to requests about the operator's health and metrics.  An endpoint is known by its
path alone, without the query; it answers GET, and HEAD in the same way without a body.
-/

namespace PodSizing

/-- What can be asked for. -/
inductive Endpoint where
  /-- Whether the operator works. -/
  | liveness
  /-- Whether the operator is ready. -/
  | readiness
  /-- The metrics as text. -/
  | metrics
  deriving DecidableEq

/-- The answer to a request. -/
structure EndpointAnswer where
  status : Nat
  /-- Empty when the answer has no content. -/
  contentType : String
  /-- The body, where it is JSON. -/
  body : Option Json

namespace Endpoint

/-- The endpoint at a path, which has to be written exactly so. -/
def ofPath? : String → Option Endpoint
  | "/healthz" => some .liveness
  | "/readyz" => some .readiness
  | "/metrics" => some .metrics
  | _ => none

/-- A target of a request without its query and fragment. -/
def pathOf (target : String) : String :=
  String.ofList (target.toList.takeWhile fun letter => letter != '?' && letter != '#')

/-- The answer to GET. -/
def answer (endpoint : Endpoint) (registry : HealthRegistry) : EndpointAnswer :=
  match endpoint with
  | .liveness =>
      { status := if registry.status.isOperational then 200 else 503
        contentType := "application/json"
        body := some registry.report.toJson }
  | .readiness =>
      { status := if registry.readiness.ready then 200 else 503
        contentType := "application/json"
        body := some registry.readiness.toJson }
  | .metrics => ⟨200, "text/plain; version=0.0.4", none⟩

end Endpoint

/-- The answer to a request: 404 for an unknown path, and 405 for a method other than GET and
HEAD. -/
def HealthRegistry.answer (registry : HealthRegistry) (method target : String) : EndpointAnswer :=
  match Endpoint.ofPath? (Endpoint.pathOf target) with
  | none => ⟨404, "", none⟩
  | some endpoint =>
      match method with
      | "GET" => endpoint.answer registry
      | "HEAD" => { endpoint.answer registry with body := none }
      | _ => ⟨405, "", none⟩

end PodSizing
