import PodSizing.Cluster.Api
import PodSizing.Json.Cluster
import PodSizing.NamespaceFilter

/-!
# Listings

Pods and pod metrics are listed for the whole cluster, or for each of the namespaces that are
included.  The first namespace that cannot be listed ends the listing.
-/

namespace PodSizing

/-- What is listed at once. -/
inductive Scope where
  | cluster
  | within (namespaceName : String)
  deriving DecidableEq

namespace Scope

/-- The scopes of a filter: the included namespaces, or the whole cluster when there are none. -/
def ofFilter (filter : NamespaceFilter) : List Scope :=
  if filter.included.isEmpty then [.cluster] else filter.included.map .within

/-- The part of a path that names the scope. -/
def path : Scope → String
  | .cluster => ""
  | .within name => "/namespaces/" ++ name

/-- The scope in a message. -/
def suffix : Scope → String
  | .cluster => ""
  | .within name => " in " ++ name

end Scope

/-- A listing that failed. -/
structure ListingError where
  /-- What was to be listed. -/
  subject : String
  scope : Scope
  cause : ApiError
  deriving DecidableEq

namespace ListingError

/-- What could not be listed, and where. -/
def message (error : ListingError) : String :=
  "Failed to list " ++ error.subject ++ error.scope.suffix

/-- The message with all causes. -/
def chain (error : ListingError) : String := error.message ++ ": " ++ error.cause.chain

end ListingError

/-- Lists one scope after the other; the first failure ends the listing. -/
def listScopes {m : Type → Type} [Monad m] {ε α : Type} (list : Scope → m (Except ε (List α))) :
    List Scope → m (Except ε (List α))
  | [] => pure (.ok [])
  | scope :: rest => do
      match ← list scope with
      | .error error => pure (.error error)
      | .ok items => return (← listScopes list rest).map (items ++ ·)

namespace Listing

/-- The metadata of a list object, of which nothing is kept. -/
def metadata? (json : Json) : Option Unit := do
  let fields ← ClusterObject.fields? json
  for name in ["continue", "resourceVersion", "selfLink"] do
    let _ ← ClusterObject.optional? Json.asText? fields name
  let _ ← ClusterObject.optional? ClusterObject.asInteger? fields "remainingItemCount"

/-- The items of a list object.  Both its fields have to be there; items that are null are
none. -/
def items? {α : Type} (decode : Json → Option α) (json : Json) : Option (List α) := do
  match ← Json.entries? ["metadata", "items"] json with
  | [metadata, items] =>
      Json.required metadata? metadata
      (← Json.required (Json.nullable (Json.asList? decode)) items).getD []
  | _ => none

/-- The form of a list object with items of a form. -/
def form {α : Type} (item : Json.Form α) : Json.Form (List α) where
  shape :=
    .record "ObjectList"
      [("metadata", false, ClusterObject.shape "ListMeta"
          [("continue", .text), ("remainingItemCount", .integer64), ("resourceVersion", .text),
           ("selfLink", .text)]),
       ("items", false, .nullable (.list item.shape))]
  ofJson? := items? item.ofJson?

/-- The running pods of a scope. -/
def podsRequest (scope : Scope) : ApiRequest :=
  ⟨"GET", "/api/v1" ++ scope.path ++ "/pods?&fieldSelector=status.phase%3DRunning", none⟩

/-- The metrics of the pods of a scope. -/
def metricsRequest (scope : Scope) : ApiRequest :=
  ⟨"GET", "/apis/metrics.k8s.io/v1beta1" ++ scope.path ++ "/pods?", none⟩

variable {σ : Type}

/-- Lists the pods of some scopes. -/
def pods (exchange : ApiRequest → StateM σ ApiReply) (scopes : List Scope) :
    StateM σ (Except ListingError (List Pod)) :=
  listScopes (fun scope => do
    let items ← (podsRequest scope).send (form Pod.form) exchange
    return items.mapError fun cause => ⟨"pods", scope, cause⟩) scopes

/-- Lists the metrics of the pods of some scopes. -/
def metrics (exchange : ApiRequest → StateM σ ApiReply) (scopes : List Scope) :
    StateM σ (Except ListingError (List PodMetrics)) :=
  listScopes (fun scope => do
    let items ← (metricsRequest scope).send (form PodMetrics.form) exchange
    return items.mapError fun cause => ⟨"pod metrics", scope, cause⟩) scopes

end Listing

end PodSizing
