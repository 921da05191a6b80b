import PodSizing.Instant.Timestamp

/-!
# Health

How the parts of the operator are doing.  Every cycle that fails as a whole degrades the
reconciler, and the third failure in a row makes it unhealthy; one good cycle makes it healthy
again.  The worst part decides for the whole, and the operator is ready once its loop has been
scheduled and no part is unhealthy.
-/

namespace PodSizing

/-- How a part is doing. -/
inductive ComponentStatus where
  | healthy
  /-- It works, but the last operation went wrong in part. -/
  | degraded
  | unhealthy
  deriving DecidableEq

namespace ComponentStatus

/-- The name of a status in JSON. -/
def name : ComponentStatus → String
  | .healthy => "healthy"
  | .degraded => "degraded"
  | .unhealthy => "unhealthy"

/-- The status with the given name. -/
def ofName? : String → Option ComponentStatus
  | "healthy" => some .healthy
  | "degraded" => some .degraded
  | "unhealthy" => some .unhealthy
  | _ => none

theorem ofName?_name (status : ComponentStatus) : ofName? status.name = some status := by
  cases status <;> rfl

/-- The part still works. -/
def isOperational : ComponentStatus → Bool
  | .healthy | .degraded => true
  | .unhealthy => false

/-- The worst of some statuses; healthy when there are none. -/
def worst (statuses : List ComponentStatus) : ComponentStatus :=
  if statuses.contains .unhealthy then .unhealthy
  else if statuses.contains .degraded then .degraded
  else .healthy

end ComponentStatus

/-- A part of the operator. -/
inductive Component where
  /-- It lists containers and reads their usage. -/
  | provider
  /-- It applies plans. -/
  | executor
  /-- It runs the cycles. -/
  | reconciler
  deriving DecidableEq

namespace Component

/-- All parts, in the order of their names. -/
def all : List Component := [.executor, .provider, .reconciler]

/-- The name under which a part is listed in a report. -/
def name : Component → String
  | .provider => "provider"
  | .executor => "executor"
  | .reconciler => "reconciler"

/-- The part with the given name. -/
def ofName? : String → Option Component
  | "provider" => some .provider
  | "executor" => some .executor
  | "reconciler" => some .reconciler
  | _ => none

end Component

/-- What was last noted about a part. -/
structure ComponentHealth where
  status : ComponentStatus
  message : Option String
  lastCheck : Timestamp
  deriving DecidableEq

/-- How the cycles have gone. -/
structure CycleHealth where
  lastSuccess : Option Timestamp
  lastFailure : Option Timestamp
  /-- The failures since the last success. -/
  consecutiveFailures : Nat
  deriving DecidableEq

/-- The health of the whole operator as it is shown, with the parts by name. -/
structure HealthReport where
  status : ComponentStatus
  components : List (String × ComponentHealth)
  cycles : CycleHealth
  deriving DecidableEq

/-- The worst status among the parts of a report. -/
def HealthReport.worstStatus (report : HealthReport) : ComponentStatus :=
  .worst (report.components.map fun entry => entry.2.status)

/-- Whether the operator is ready, and why not. -/
structure Readiness where
  ready : Bool
  reason : Option String
  deriving DecidableEq

/-- The notes about all parts.  A part about which nothing was noted has no entry. -/
structure HealthRegistry where
  provider : Option ComponentHealth
  executor : Option ComponentHealth
  reconciler : Option ComponentHealth
  cycles : CycleHealth
  /-- The loop has been scheduled. -/
  scheduled : Bool
  deriving DecidableEq

namespace HealthRegistry

/-- The failures in a row after which the reconciler is unhealthy. -/
def toleratedFailures : Nat := 3

/-- Nothing was noted, no cycle has ended and the loop has not been scheduled. -/
def empty : HealthRegistry := ⟨none, none, none, ⟨none, none, 0⟩, false⟩

/-- The note about a part. -/
def get? (registry : HealthRegistry) : Component → Option ComponentHealth
  | .provider => registry.provider
  | .executor => registry.executor
  | .reconciler => registry.reconciler

/-- Replaces the note about a part. -/
def note (registry : HealthRegistry) (component : Component) (health : ComponentHealth) :
    HealthRegistry :=
  match component with
  | .provider => { registry with provider := some health }
  | .executor => { registry with executor := some health }
  | .reconciler => { registry with reconciler := some health }

theorem get?_note (registry : HealthRegistry) (noted read : Component) (health : ComponentHealth) :
    (registry.note noted health).get? read =
      if read = noted then some health else registry.get? read := by
  cases noted <;> cases read <;> rfl

/-- Notes that a part is in order. -/
def noteHealthy (registry : HealthRegistry) (component : Component) (now : Instant) :
    HealthRegistry :=
  registry.note component ⟨.healthy, none, now⟩

/-- Notes that a part works badly, with the reason. -/
def noteDegraded (registry : HealthRegistry) (component : Component) (message : String)
    (now : Instant) : HealthRegistry :=
  registry.note component ⟨.degraded, some message, now⟩

/-- Notes that a part does not work, with the reason. -/
def noteUnhealthy (registry : HealthRegistry) (component : Component) (message : String)
    (now : Instant) : HealthRegistry :=
  registry.note component ⟨.unhealthy, some message, now⟩

/-- Notes all parts as healthy. -/
def noteAllHealthy (registry : HealthRegistry) (now : Instant) : HealthRegistry :=
  Component.all.foldl (fun registry component => registry.noteHealthy component now) registry

/-- Says whether the loop has been scheduled. -/
def setScheduled (registry : HealthRegistry) (scheduled : Bool) : HealthRegistry :=
  { registry with scheduled }

/-- A cycle that began at the given instant went well. -/
def recordSuccess (registry : HealthRegistry) (cycle now : Instant) : HealthRegistry :=
  { registry with
    cycles :=
      { registry.cycles with
        lastSuccess := some (.ofInstant cycle)
        consecutiveFailures := 0 } }
  |>.noteHealthy .reconciler now

/-- A cycle that began at the given instant failed. -/
def recordFailure (registry : HealthRegistry) (cycle : Instant) (message : String)
    (now : Instant) : HealthRegistry :=
  let failures := registry.cycles.consecutiveFailures + 1
  let noted :=
    { registry with
      cycles :=
        { registry.cycles with
          lastFailure := some (.ofInstant cycle)
          consecutiveFailures := failures } }
  if toleratedFailures ≤ failures then noted.noteUnhealthy .reconciler message now
  else noted.noteDegraded .reconciler message now

/-- The parts about which something was noted, by name. -/
def entries (registry : HealthRegistry) : List (String × ComponentHealth) :=
  Component.all.filterMap fun component => (registry.get? component).map (component.name, ·)

/-- The status of the whole. -/
def status (registry : HealthRegistry) : ComponentStatus :=
  .worst (registry.entries.map fun entry => entry.2.status)

/-- The notes as they are shown, with the status of the whole. -/
def report (registry : HealthRegistry) : HealthReport :=
  ⟨registry.status, registry.entries, registry.cycles⟩

/-- The operator is ready when its loop has been scheduled, unless the whole is unhealthy; degraded
parts do not count against it. -/
def readiness (registry : HealthRegistry) : Readiness :=
  if !registry.scheduled then ⟨false, some "Reconciler not yet scheduled"⟩
  else if registry.status = .unhealthy then ⟨false, some "Critical component unhealthy"⟩
  else ⟨true, none⟩

end HealthRegistry

end PodSizing
