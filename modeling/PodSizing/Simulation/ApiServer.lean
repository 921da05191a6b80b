import PodSizing.Cluster.Provider
import PodSizing.Cluster.Resize
import PodSizing.Simulation.Script

/-!
# Scripted API servers

An API server that answers from a list of routes, of which the first that fits a request counts,
and that keeps the requests made of it.
-/

namespace PodSizing.Simulation

/-- An answer for the requests that fit. -/
structure Route where
  method : Option String
  /-- The path without the query. -/
  path : Option String
  reply : ApiReply
  /-- The route serves one request only. -/
  once : Bool

/-- A scripted API server. -/
structure ApiServer where
  routes : List Route
  /-- The requests so far, in order. -/
  requests : List ApiRequest

namespace Route

/-- The route serves the request. -/
def serves (request : ApiRequest) (route : Route) : Bool :=
  route.method.all (· == request.method) && route.path.all (· == request.path)

end Route

namespace ApiServer

/-- A server to which no request has been made. -/
def ofRoutes (routes : List Route) : ApiServer := ⟨routes, []⟩

/-- What is answered where there is no route. -/
def noRoute : ApiReply :=
  .answer 404
    "\x7b\"status\":\"Failure\",\"message\":\"no route\",\"reason\":\"NotFound\",\"code\":404\x7d"

/-- Answers a request. -/
def exchange (request : ApiRequest) : StateM ApiServer ApiReply := fun server =>
  let requests := server.requests ++ [request]
  match server.routes.findIdx? (Route.serves request) with
  | none => (noRoute, { server with requests })
  | some index =>
      match server.routes[index]? with
      | none => (noRoute, { server with requests })
      | some route =>
          (route.reply,
            { routes := if route.once then server.routes.eraseIdx index else server.routes
              requests })

end ApiServer

/-- What calls are made of. -/
inductive Runtime where
  | scripted (script : Script)
  | cluster (server : ApiServer)

namespace Runtime

/-- The time that an exchange with an API server takes. -/
def exchangeTime : Duration := ⟨1⟩

/-- The time that a call takes, the reply to it, the runtime after it and its events. -/
def reply (runtime : Runtime) (attempt : Nat) (request : ResizeRequest) :
    (Duration × Option Reply) × Runtime × List Event :=
  match runtime with
  | .scripted script => (script.reply attempt request, runtime, [])
  | .cluster server =>
      let ((reply, events), server) := (request.apply ApiServer.exchange).run server
      ((exchangeTime, some reply), .cluster server, events)

/-- The API server, where the runtime is one. -/
def server? : Runtime → Option ApiServer
  | .scripted _ => none
  | .cluster server => some server

end Runtime

end PodSizing.Simulation
