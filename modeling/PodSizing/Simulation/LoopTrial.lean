import PodSizing.Operator.Loop
import PodSizing.Simulation.CycleTrial

/-!
# Simulated loops

A loop with a scripted source that changes at given times, until an order to stop is sent.  When
both a tick and the order are there, what came first is taken up first.
-/

namespace PodSizing.Simulation

/-- What changes in a source at a given time. -/
structure SourceChange where
  time : Duration
  targets : Option (List Target)
  usage : Option (List (String × ScriptedUsage))
  listError : Option (List String)
  listDelay : Duration

/-- A source with the time that listing takes. -/
structure SlowSource where
  source : Source
  listDelay : Duration
  /-- What is still to change, in the order of time. -/
  changes : List SourceChange

namespace SlowSource

/-- Targets and usage stay as they are when they are not given. -/
def change (slow : SlowSource) (change : SourceChange) : SlowSource :=
  { slow with
    source :=
      { targets := change.targets.getD slow.source.targets
        usage := change.usage.getD slow.source.usage
        listError := change.listError }
    listDelay := change.listDelay }

/-- The source at a given time. -/
def moveTo (slow : SlowSource) (clock : Duration) : SlowSource :=
  let moved := (slow.changes.filter (·.time ≤ clock)).foldl change slow
  { moved with changes := slow.changes.filter fun change => !(change.time ≤ clock) }

end SlowSource

/-- A loop at work. -/
structure LoopTrial where
  /-- When the order to stop is sent. -/
  order : Duration
  loop : Loop
  operator : Operator
  trial : Trial
  source : SlowSource
  listTimes : List Duration
  results : List (Except CycleError CycleReport)
  events : List Event

namespace LoopTrial

/-- Takes a step of the loop, if it is possible. -/
def act (state : LoopTrial) (action : LoopAction) : LoopTrial :=
  { state with loop := (state.loop.step? action).getD state.loop }

/-- Lets time pass for the loop.  The order is sent when its time comes. -/
def pass (state : LoopTrial) (time : Duration) : LoopTrial :=
  let untilOrder := state.order - state.loop.clock
  if state.loop.ordered ∨ ¬ untilOrder ≤ time then state.act (.elapse time)
  else ((state.act (.elapse untilOrder)).act .order).act (.elapse (time - untilOrder))

/-- Lets time pass for the loop and for the runtime. -/
def wait (state : LoopTrial) (time : Duration) : LoopTrial :=
  { state.pass time with trial := state.trial.wait time }

/-- Lets time pass up to a given time, if that is still to come. -/
def waitUntil (state : LoopTrial) (time : Duration) : LoopTrial :=
  state.wait (time - state.loop.clock)

/-- Runs a cycle when the wall clock shows `wall`. -/
def cycle (state : LoopTrial) (wall : Instant) (reporter : Option String) : LoopTrial :=
  let state := state.act .beginCycle
  let listed := state.loop.clock
  let state := state.wait (state.source.moveTo listed).listDelay
  let source := (state.source.moveTo listed).moveTo state.loop.clock
  let cycle := CycleTrial.runOnce state.operator state.trial wall source.source.observe
  let told := (reporter.map fun name => Operator.resultEvents name cycle.result).getD []
  let state :=
    { state with
      operator := cycle.operator
      source := source
      listTimes := state.listTimes ++ [listed]
      results := state.results ++ [cycle.result]
      events := state.events ++ cycle.events ++ told }
  let state := state.pass (cycle.trial.executor.clock - state.trial.executor.clock)
  { state.act .endCycle with trial := cycle.trial }

/-- Runs cycles until the order to stop is taken up. -/
def advance (walls : Nat → Instant) (reporter : Option String) : Nat → LoopTrial → LoopTrial
  | 0, state => state
  | fuel + 1, state =>
      let tick := state.loop.ticker.due
      if state.order ≤ tick then (state.waitUntil state.order).act .stop
      else
        advance walls reporter fuel
          ((state.waitUntil tick).cycle (walls state.loop.cycles) reporter)

/-- Runs the loop of an operator.  Two ticks are at least one interval apart, which bounds the
number of cycles before the order. -/
def run (operator : Operator) (runtime : Runtime) (source : SlowSource) (interval order : Duration)
    (walls : Nat → Instant) (reporter : Option String) : LoopTrial :=
  let begun : LoopTrial :=
    { order := order
      loop := .ofInterval interval
      operator := { operator with health := operator.health.setScheduled true }
      trial := .ofRuntime (.ofSettings operator.settings) runtime (walls 0)
      source := source
      listTimes := []
      results := []
      events := [Loop.startEvent operator.settings interval] }
  let ended := advance walls reporter (order.nanos / interval.nanos + 2) begun
  { ended with events := ended.events ++ [Loop.stopEvent] }

end LoopTrial

end PodSizing.Simulation
