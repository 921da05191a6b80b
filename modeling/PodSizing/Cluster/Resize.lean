import PodSizing.Cluster.Api
import PodSizing.Cluster.Refusal
import PodSizing.Event
import PodSizing.Executor.Application
import PodSizing.Json.Cluster
import PodSizing.Json.Writer

/-!
# Resizing a running pod

A resize is a patch of the pod's resize subresource.  Its body names the container and gives the
new quantities; it is merged into what is configured, so that what it does not name stays.
-/

namespace PodSizing

namespace ResizeRequest

/-- The quantities that a request writes, one entry for each name. -/
def requirements (request : ResizeRequest) : Requirements :=
  Requirements.none.merge request.patches

/-- The body of the patch. -/
def body (request : ResizeRequest) : Json :=
  let quantities (name : String) (quantities : List (String × String)) : List (String × Json) :=
    if quantities.isEmpty then []
    else [(name, .ofFields (quantities.map fun (name, text) => (name, .string text)))]
  let written := request.requirements
  .ofFields
    [("spec", .ofFields
      [("containers", .array
        [.ofFields
          [("name", .string request.container.container),
           ("resources", .ofFields
             (quantities "requests" written.requests ++ quantities "limits" written.limits))]])])]

/-- The request to the API server. -/
def apiRequest (request : ResizeRequest) : ApiRequest where
  method := "PATCH"
  target :=
    "/api/v1/namespaces/" ++ request.container.pod.namespaceName ++ "/pods/" ++
      request.container.pod.name ++ "/resize?"
  content := some ("application/strategic-merge-patch+json", request.body)

/-- What the result of the exchange means for the request. -/
def replyOf (request : ResizeRequest) : Except ApiError Pod → Reply
  | .ok _ => .ok ()
  | .error (.refused status) => .error (.ofAnswer status.code status.message request)
  | .error error => .error (.failed error.message)

/-- The event when a resize is sent. -/
def sendEvent (request : ResizeRequest) : Event :=
  ⟨.debug, "Patching pod resize subresource",
    [("container", .text request.container.toText), ("patch", .text request.body.toText)]⟩

/-- The events of a result: an error of the API server that does not reject dimensions. -/
def replyEvents (request : ResizeRequest) (result : Except ApiError Pod) : List Event :=
  match result, request.replyOf result with
  | .error (.refused status), .error (.failed _) =>
      [⟨.warn, "Resize rejected without a recognizable dimension, treating as failure",
        [("container", .text request.container.toText), ("code", .natural status.code),
         ("reason", .text status.reason)]⟩]
  | _, _ => []

/-- The request is made of the API server. -/
def apply {σ : Type} (request : ResizeRequest) (exchange : ApiRequest → StateM σ ApiReply) :
    StateM σ (Reply × List Event) := do
  let result ← request.apiRequest.send Pod.form exchange
  return (request.replyOf result, request.sendEvent :: request.replyEvents result)

end ResizeRequest

end PodSizing
