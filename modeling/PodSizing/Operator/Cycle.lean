import PodSizing.Executor
import PodSizing.Operator

/-!
# Runs of cycles

A controller is an operator with the executor on which it has its plans applied.  What a cycle
does not decide itself is given: its instants, what it observes, and all that happens while its
plans are applied, from the turns of the workers to the replies of the runtime.
-/

namespace PodSizing

/-- What is given to a cycle. -/
structure Cycle where
  /-- The instant as of which the cycle runs. -/
  now : Instant
  /-- What the wall clock shows at the start. -/
  wall : Instant
  observation : Observation
  /-- What happens from the moment at which the plans are handed over until all is done. -/
  schedule : List Action
  /-- What the wall clock shows at the end. -/
  finish : Instant

/-- What came of a cycle. -/
structure CycleRecord where
  cycle : Cycle
  /-- The plans that were handed over. -/
  plans : List Plan
  /-- The calls that were made for them. -/
  calls : List Call
  result : Except CycleError CycleReport

/-- The outcomes that a cycle has reported. -/
def CycleRecord.outcomes (record : CycleRecord) : List Outcome :=
  match record.result with
  | .ok report => report.outcomes
  | .error _ => []

/-- An operator with its executor. -/
structure Controller where
  operator : Operator
  executor : Executor

namespace Controller

/-- A controller that has not run yet. -/
def ofOperator (operator : Operator) : Controller := ⟨operator, .ofSettings operator.settings⟩

/-- Runs a cycle; `none` when its schedule is not possible or does not bring it to an end. -/
def runCycle? (controller : Controller) (cycle : Cycle) : Option (Controller × CycleRecord) :=
  match controller.operator.assess cycle.now cycle.wall cycle.observation with
  | (operator, .error error) =>
      some (⟨operator, controller.executor⟩, ⟨cycle, [], [], .error error⟩)
  | (operator, .ok assessment) => do
      let number := controller.executor.executions.length
      let handOver := Action.execute assessment.plans operator.settings.batchSize
        operator.settings.concurrency
      let executor ← controller.executor.run? (handOver :: cycle.schedule)
      let execution ← executor.executions[number]?
      let .returned := execution.stage | none
      let (operator, report) := operator.conclude cycle.now cycle.wall cycle.finish assessment
        execution.outcomes execution.deferred
      some (⟨operator, executor⟩,
        ⟨cycle, assessment.plans, executor.callsOf number, .ok report⟩)

/-- Runs cycles one after the other. -/
def runCycles? (controller : Controller) : List Cycle → Option (Controller × List CycleRecord)
  | [] => some (controller, [])
  | cycle :: rest => do
      let (next, record) ← controller.runCycle? cycle
      let (last, records) ← next.runCycles? rest
      some (last, record :: records)

end Controller

end PodSizing
