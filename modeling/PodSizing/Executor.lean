import PodSizing.Executor.Execution

/-!
# The executor

An executor holds the executions that were begun on it; they share its pod locks.
`Executor.step?` is one action, and a run is any sequence of actions, so that nothing is assumed
about the order in which the workers act or about the time that passes between two actions.
-/

namespace PodSizing

/-- An executor with the executions that were ever begun on it. -/
structure Executor where
  settings : ExecutorSettings
  clock : Duration
  locks : PodLocks WorkerId
  executions : List Execution
  calls : List Call
  events : List Event
  deriving DecidableEq

/-- What happens in one step. -/
inductive Action where
  /-- Time passes. -/
  | elapse (time : Duration)
  /-- An execution begins. -/
  | execute (plans : List Plan) (batchSize concurrency : Nat)
  /-- The turn of the next batch of an execution. -/
  | turn (execution : Nat)
  | work (worker : WorkerId) (action : WorkerAction)
  /-- A batch is over. -/
  | join (execution : Nat) (now : Instant)
  /-- A pause is over. -/
  | resume (execution : Nat)
  /-- An execution drops the unused locks and returns. -/
  | close (execution : Nat)

namespace Executor

/-- An executor that has not been used. -/
def ofSettings (settings : ExecutorSettings) : Executor where
  settings := settings
  clock := .zero
  locks := .empty
  executions := []
  calls := []
  events := []

/-- Replaces an execution and adds events. -/
def update (executor : Executor) (number : Nat) (execution : Execution) (events : List Event) :
    Executor :=
  { executor with
    executions := executor.executions.set number execution
    events := executor.events ++ events }

/-- One step of a worker. -/
def work? (executor : Executor) (id : WorkerId) (action : WorkerAction) : Option Executor := do
  let execution ← executor.executions[id.execution]?
  let .running pool := execution.stage | none
  let worker ← pool.workers[id.number]?
  let (worker, place) ← worker.act executor.settings executor.clock id
    ⟨pool.queue, executor.locks, executor.calls, executor.events⟩ action
  let pool := { pool with queue := place.queue, workers := pool.workers.set id.number worker }
  some
    { executor with
      locks := place.locks
      executions := executor.executions.set id.execution { execution with stage := .running pool }
      calls := place.calls
      events := place.events }

/-- One step of the executor; `none` when the action is not possible now. -/
def step? (executor : Executor) : Action → Option Executor
  | .elapse time => some { executor with clock := executor.clock + time }
  | .execute plans batchSize concurrency =>
      let execution := Execution.ofPlans executor.clock plans batchSize concurrency
      some { executor with executions := executor.executions ++ [execution] }
  | .turn number => do
      let execution ← executor.executions[number]?
      let .turn := execution.stage | none
      let (execution, events) := execution.takeTurn executor.settings executor.clock
      some (executor.update number execution events)
  | .work worker action => executor.work? worker action
  | .join number now => do
      let execution ← executor.executions[number]?
      let .running pool := execution.stage | none
      guard pool.isOver
      some (executor.update number (execution.leaveBatch executor.settings executor.clock pool now)
        pool.endEvents)
  | .resume number => do
      let execution ← executor.executions[number]?
      let .pausing since := execution.stage | none
      guard (since + executor.settings.batchDelay ≤ executor.clock)
      some (executor.update number { execution with stage := .turn } [])
  | .close number => do
      let execution ← executor.executions[number]?
      let .closing := execution.stage | none
      some
        { executor with
          locks := executor.locks.prune
          executions := executor.executions.set number { execution with stage := .returned } }

/-- The calls that were made for an execution. -/
def callsOf (executor : Executor) (number : Nat) : List Call :=
  executor.calls.filter fun call => call.worker.execution == number

/-- A sequence of steps. -/
def run? (executor : Executor) : List Action → Option Executor
  | [] => some executor
  | action :: rest => (executor.step? action).bind fun next => run? next rest

theorem run?_append (executor : Executor) (first second : List Action) :
    executor.run? (first ++ second) = (executor.run? first).bind fun next => next.run? second := by
  induction first generalizing executor with
  | nil => rfl
  | cons action rest ih =>
      simp only [List.cons_append, run?]
      cases executor.step? action with
      | none => rfl
      | some next => exact ih next

end Executor

end PodSizing
