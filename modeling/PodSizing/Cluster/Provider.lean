import PodSizing.Cluster.Listing
import PodSizing.Cluster.Selection
import PodSizing.Operator

/-!
# The source of usage

The provider lists pods and metrics once in a cycle.  The usage it has read is kept in a snapshot
from which samples are served until the next listing: metrics that cannot be listed empty it, and
pods that cannot be listed leave it as it is.
-/

namespace PodSizing

/-- The usage of containers, each at most once. -/
structure UsageSnapshot where
  entries : List (ContainerId × PerDimension Nat)
  deriving DecidableEq

namespace UsageSnapshot

/-- No usage is known. -/
def empty : UsageSnapshot := ⟨[]⟩

/-- Notes the usage of a container in place of what was noted before. -/
def note (snapshot : UsageSnapshot) (container : ContainerId) (amounts : PerDimension Nat) :
    UsageSnapshot :=
  ⟨(container, amounts) :: snapshot.entries.filter fun entry => entry.1 != container⟩

/-- The usage that some metrics report; of several entries for a container the last counts. -/
def ofMetrics (metrics : List PodMetrics) : UsageSnapshot :=
  (metrics.flatMap PodMetrics.usage).foldl (fun snapshot (container, amounts) =>
    snapshot.note container amounts) empty

/-- The usage of a container, where it is known. -/
def get? (snapshot : UsageSnapshot) (container : ContainerId) : Option (PerDimension Nat) :=
  snapshot.entries.lookup container

/-- The number of containers whose usage is known. -/
def size (snapshot : UsageSnapshot) : Nat := snapshot.entries.length

end UsageSnapshot

/-- A source of usage that asks the cluster. -/
structure Provider where
  selector : Selector
  snapshot : UsageSnapshot

namespace Provider

/-- A provider that has not listed anything yet. -/
def ofSelector (selector : Selector) : Provider := ⟨selector, .empty⟩

/-- What is listed. -/
def scopes (provider : Provider) : List Scope := Scope.ofFilter provider.selector.filter

/-- The provider after metrics were listed or could not be. -/
def refresh (provider : Provider) (metrics : Except ListingError (List PodMetrics)) : Provider :=
  { provider with
    snapshot := match metrics with
      | .ok metrics => .ofMetrics metrics
      | .error _ => .empty }

/-- The events of a refresh. -/
def refreshEvents (provider : Provider) (metrics : Except ListingError (List PodMetrics)) :
    List Event :=
  (match metrics with
    | .ok metrics => metrics.flatMap PodMetrics.usageEvents
    | .error error =>
        [⟨.warn, "Metrics API unavailable", [("error", .text error.message)]⟩]) ++
  [⟨.debug, "Refreshed usage snapshot",
    [("containers", .natural (provider.refresh metrics).snapshot.size)]⟩]

/-- The targets of some pods. -/
def targets (provider : Provider) (pods : List Pod) : List Target :=
  pods.flatMap provider.selector.select

/-- The events of a listing. -/
def listEvents (provider : Provider) (pods : List Pod)
    (metrics : Except ListingError (List PodMetrics)) : List Event :=
  pods.flatMap provider.selector.selectEvents ++ provider.refreshEvents metrics ++
    [⟨.debug, "Listed targets",
      [("pods", .natural pods.length), ("containers", .natural (provider.targets pods).length)]⟩]

/-- Lists the containers to look at and reads their usage. -/
def list {σ : Type} (provider : Provider) (exchange : ApiRequest → StateM σ ApiReply) :
    StateM σ (Provider × Except ListingError (List Target) × List Event) := do
  match ← Listing.pods exchange provider.scopes with
  | .error error => return (provider, .error error, [])
  | .ok pods =>
      let metrics ← Listing.metrics exchange provider.scopes
      return (provider.refresh metrics, .ok (provider.targets pods),
        provider.listEvents pods metrics)

/-- The sample of a target from the usage that was read last. -/
def sample? (provider : Provider) (target : Target) : Option Sample :=
  (provider.snapshot.get? target.container).map fun amounts =>
    ⟨target.container, amounts, target.allocation⟩

/-- What a cycle observes after a listing. -/
def observe (provider : Provider) : Except ListingError (List Target) → Observation
  | .error error => .error error.chain
  | .ok targets =>
      .ok (targets.map fun target =>
        (target, match provider.sample? target with
          | some sample => .measured sample
          | none => .unavailable))

end Provider

end PodSizing
