import PodSizing.Simulation.CycleTrial

/-!
# Simulated clusters

Cycles of an operator that reads usage from a scripted API server and resizes through it.
-/

namespace PodSizing.Simulation

/-- An operator at work in a cluster. -/
structure ClusterTrial where
  operator : Operator
  executor : Executor
  provider : Provider
  server : ApiServer
  events : List Event

namespace ClusterTrial

/-- An operator before its first cycle, with a server that has no routes. -/
def ofOperator (operator : Operator) (selector : Selector) : ClusterTrial where
  operator := operator
  executor := .ofSettings operator.settings
  provider := .ofSelector selector
  server := .ofRoutes []
  events := []

/-- Runs a cycle as of `now` that starts when the wall clock shows `wall`. -/
def cycle (state : ClusterTrial) (now wall : Instant) :
    ClusterTrial × Except CycleError CycleReport :=
  let ((provider, listed, listEvents), server) :=
    (state.provider.list ApiServer.exchange).run state.server
  let trial := Trial.ofRuntime state.executor (.cluster server) wall
  let cycle := CycleTrial.run state.operator trial now wall (provider.observe listed)
  ({ operator := cycle.operator
     executor := cycle.trial.executor
     provider := provider
     server := cycle.trial.runtime.server?.getD server
     events := state.events ++ listEvents ++ cycle.events }, cycle.result)

end ClusterTrial

end PodSizing.Simulation
