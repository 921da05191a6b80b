import Mathlib.Data.Option.Basic
import PodSizing.Executor
import PodSizing.Proofs.Executor.WorkerStep

/-!
# The steps of executions and executors

`Executor.Step` says what can happen to an executor, and `Executor.step?` gives exactly these
steps.  `Execution.Step` says what can happen to one of its executions, seen without its
surroundings: of the locks and of the clock nothing is assumed.
-/

namespace PodSizing

/-- The pool of an execution at a batch. -/
def Stage.pool? : Stage → Option Pool
  | .running pool => some pool
  | _ => none

/-- The pool after one of its workers has acted. -/
def Pool.withWorker (pool : Pool) (number : Nat) (worker : Worker) (queue : List Job) : Pool :=
  { pool with queue, workers := pool.workers.set number worker }

namespace Execution

/-- The execution with its pool in another state. -/
def withPool (execution : Execution) (pool : Pool) : Execution :=
  { execution with stage := .running pool }

/-- What can happen to the execution of a number, with the calls that it makes thereby.  Only such
ends of calls are possible as are allowed. -/
inductive Step (settings : ExecutorSettings) (allowed : Call → WorkerAction → Prop)
    (number : Nat) : Execution → List Call → Execution → Prop
  | beginBatch {execution : Execution} {batch : Batch} {rest : List Batch} {clock : Duration}
      (stage : execution.stage = .turn) (remaining : execution.remaining = batch :: rest)
      (early : execution.isLate settings clock = false) :
      Step settings allowed number execution []
        { execution with
          stage := .running (.ofBatch batch execution.concurrency)
          remaining := rest }
  | putOff {execution : Execution} {batch : Batch} {rest : List Batch} {clock : Duration}
      (stage : execution.stage = .turn) (remaining : execution.remaining = batch :: rest)
      (late : execution.isLate settings clock = true) :
      Step settings allowed number execution []
        { execution with
          stage := .closing
          remaining := []
          deferred := (batch :: rest).flatMap fun batch => batch.jobs.map Job.plan }
  | runOut {execution : Execution} (stage : execution.stage = .turn)
      (remaining : execution.remaining = []) :
      Step settings allowed number execution [] { execution with stage := .closing }
  | work {execution : Execution} {pool : Pool} {worker next : Worker} {place nextPlace : Workplace}
      {clock : Duration} {index : Nat} {action : WorkerAction} {made : List Call}
      (stage : execution.stage = .running pool) (present : pool.workers[index]? = some worker)
      (step : Worker.Step settings clock ⟨number, index⟩ worker place action next nextPlace)
      (queue : place.queue = pool.queue) (calls : nextPlace.calls = place.calls ++ made)
      (ends : ∀ call, worker.currentCall? ⟨number, index⟩ = some call → allowed call action) :
      Step settings allowed number execution made
        (execution.withPool (pool.withWorker index next nextPlace.queue))
  | join {execution : Execution} {pool : Pool} {clock : Duration} (now : Instant)
      (stage : execution.stage = .running pool) (isOver : pool.isOver = true) :
      Step settings allowed number execution []
        (execution.leaveBatch settings clock pool now)
  | resume {execution : Execution} {since : Duration} (stage : execution.stage = .pausing since) :
      Step settings allowed number execution [] { execution with stage := .turn }
  | close {execution : Execution} (stage : execution.stage = .closing) :
      Step settings allowed number execution [] { execution with stage := .returned }

/-- A turn is one of three steps. -/
theorem Step.of_takeTurn {execution : Execution} {settings : ExecutorSettings}
    {allowed : Call → WorkerAction → Prop} {number : Nat} (clock : Duration)
    (stage : execution.stage = .turn) :
    Step settings allowed number execution [] (execution.takeTurn settings clock).1 := by
  cases remaining : execution.remaining with
  | nil =>
      have turned :
          (execution.takeTurn settings clock).1 = { execution with stage := .closing } := by
        simp [takeTurn, remaining]
      rw [turned]
      exact .runOut stage remaining
  | cons batch rest =>
      cases late : execution.isLate settings clock with
      | true =>
          simp only [takeTurn, remaining, late, if_true]
          exact .putOff stage remaining late
      | false =>
          simp only [takeTurn, remaining, late]
          exact .beginBatch stage remaining late

end Execution

namespace Executor

/-- What the workers of a pool share. -/
def workplace (executor : Executor) (pool : Pool) : Workplace :=
  ⟨pool.queue, executor.locks, executor.calls, executor.events⟩

/-- The executor after a worker of an execution has acted. -/
def withWork (executor : Executor) (number : Nat) (execution : Execution) (place : Workplace) :
    Executor :=
  { executor with
    locks := place.locks
    executions := executor.executions.set number execution
    calls := place.calls
    events := place.events }

/-- What can happen to an executor. -/
inductive Step (executor : Executor) : Action → Executor → Prop
  | elapse (time : Duration) :
      Step executor (.elapse time) { executor with clock := executor.clock + time }
  | execute (plans : List Plan) (batchSize concurrency : Nat) :
      Step executor (.execute plans batchSize concurrency)
        { executor with
          executions := executor.executions ++
            [.ofPlans executor.clock plans batchSize concurrency] }
  | turn {number : Nat} {execution : Execution}
      (here : executor.executions[number]? = some execution) (stage : execution.stage = .turn) :
      Step executor (.turn number)
        (executor.update number (execution.takeTurn executor.settings executor.clock).1
          (execution.takeTurn executor.settings executor.clock).2)
  | work {id : WorkerId} {action : WorkerAction} {execution : Execution} {pool : Pool}
      {worker next : Worker} {place : Workplace}
      (here : executor.executions[id.execution]? = some execution)
      (stage : execution.stage = .running pool) (present : pool.workers[id.number]? = some worker)
      (step : Worker.Step executor.settings executor.clock id worker (executor.workplace pool)
        action next place) :
      Step executor (.work id action)
        (executor.withWork id.execution
          (execution.withPool (pool.withWorker id.number next place.queue)) place)
  | join {number : Nat} {now : Instant} {execution : Execution} {pool : Pool}
      (here : executor.executions[number]? = some execution)
      (stage : execution.stage = .running pool) (isOver : pool.isOver = true) :
      Step executor (.join number now)
        (executor.update number (execution.leaveBatch executor.settings executor.clock pool now)
          pool.endEvents)
  | resume {number : Nat} {execution : Execution} {since : Duration}
      (here : executor.executions[number]? = some execution)
      (stage : execution.stage = .pausing since)
      (late : since + executor.settings.batchDelay ≤ executor.clock) :
      Step executor (.resume number) (executor.update number { execution with stage := .turn } [])
  | close {number : Nat} {execution : Execution}
      (here : executor.executions[number]? = some execution)
      (stage : execution.stage = .closing) :
      Step executor (.close number)
        { executor with
          locks := executor.locks.prune
          executions := executor.executions.set number { execution with stage := .returned } }

/-- What the step function gives is a transition. -/
theorem Step.of_step? {executor next : Executor} {action : Action}
    (h : executor.step? action = some next) : Step executor action next := by
  cases action with
  | elapse time =>
      cases h
      exact .elapse time
  | execute plans batchSize concurrency =>
      cases h
      exact .execute plans batchSize concurrency
  | turn number =>
      simp only [step?, Option.bind_eq_bind, Option.bind_eq_some_iff] at h
      rcases h with ⟨execution, here, h⟩
      split at h
      · rename_i stage
        cases h
        exact .turn here stage
      · contradiction
  | work id action =>
      simp only [step?, work?, Option.bind_eq_bind, Option.bind_eq_some_iff] at h
      rcases h with ⟨execution, here, h⟩
      split at h
      · rename_i pool stage
        simp only [Option.bind_eq_some_iff] at h
        rcases h with ⟨worker, present, ⟨next, place⟩, acted, h⟩
        cases h
        exact .work here stage present (.of_act acted)
      · contradiction
  | join number now =>
      simp only [step?, Option.bind_eq_bind, Option.bind_eq_some_iff] at h
      rcases h with ⟨execution, here, h⟩
      split at h
      · rename_i pool stage
        simp only [Option.bind_eq_some_iff, Option.guard_eq_some'] at h
        rcases h with ⟨-, isOver, h⟩
        cases h
        exact .join here stage isOver
      · contradiction
  | resume number =>
      simp only [step?, Option.bind_eq_bind, Option.bind_eq_some_iff] at h
      rcases h with ⟨execution, here, h⟩
      split at h
      · rename_i since stage
        simp only [Option.bind_eq_some_iff, Option.guard_eq_some'] at h
        rcases h with ⟨-, late, h⟩
        cases h
        exact .resume here stage late
      · contradiction
  | close number =>
      simp only [step?, Option.bind_eq_bind, Option.bind_eq_some_iff] at h
      rcases h with ⟨execution, here, h⟩
      split at h
      · rename_i stage
        cases h
        exact .close here stage
      · contradiction

/-- The step function gives every transition. -/
theorem Step.step?_eq {executor next : Executor} {action : Action}
    (step : Step executor action next) : executor.step? action = some next := by
  cases step with
  | elapse => rfl
  | execute => rfl
  | turn here stage => simp [step?, here, stage]
  | work here stage present step =>
      have acted := step.act
      rw [workplace] at acted
      simp [step?, work?, here, stage, present, acted, withWork, Execution.withPool,
        Pool.withWorker]
  | join here stage isOver => simp [step?, here, stage, isOver, guard]
  | resume here stage late => simp [step?, here, stage, late, guard]
  | close here stage => simp [step?, here, stage]

/-- The step function gives exactly the transitions. -/
theorem step?_eq_some_iff {executor next : Executor} {action : Action} :
    executor.step? action = some next ↔ Step executor action next :=
  ⟨Step.of_step?, Step.step?_eq⟩

end Executor

end PodSizing
