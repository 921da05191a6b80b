import PodSizing.Executor.PositionTable
import PodSizing.Executor.Worker

/-!
# Executions

An execution applies a list of plans batch by batch.  At the turn of a batch the time since the
start of the execution is compared with the deadline: once it has passed, this batch and all
later ones are put off.  A batch is applied by a pool of workers, and is over when all of them
are gone; then every plan of the batch has an outcome.  After the last batch the locks that are
no longer used are dropped.
-/

namespace PodSizing

/-- The workers at a batch. -/
structure Pool where
  batch : Batch
  /-- The plans that no worker has taken yet. -/
  queue : List Job
  workers : List Worker
  deriving DecidableEq

namespace Pool

/-- A pool for a batch: not more workers than plans, and at least one. -/
def ofBatch (batch : Batch) (concurrency : Nat) : Pool :=
  ⟨batch, batch.jobs, List.replicate (min (max concurrency 1) batch.jobs.length) .fresh⟩

/-- All workers are gone. -/
def isOver (pool : Pool) : Bool := pool.workers.all Worker.isGone

/-- The outcomes that the workers have left. -/
def reported (pool : Pool) : PositionTable Outcome :=
  PositionTable.empty.insertMany (pool.workers.flatMap Worker.done)

/-- The outcome of a plan that was lost with its worker. -/
def lostOutcome (now : Instant) (job : Job) : Outcome :=
  ⟨job.plan, job.plan.lostStatuses, now⟩

/-- The outcomes of the batch by position.  A plan for which no worker has left an outcome was
lost. -/
def outcomes (pool : Pool) (now : Instant) : List Outcome :=
  (pool.reported.fill (pool.batch.jobs.map fun job =>
    (job.position, lostOutcome now job))).values

/-- The events at the end of a batch. -/
def endEvents (pool : Pool) : List Event :=
  (pool.workers.filter fun worker => worker.state == .lost).map (fun _ =>
    { severity := .error
      message := "Resize worker aborted"
      fields := [("error", .text "panic"), ("batch", .natural pool.batch.index)] }) ++
  [{ severity := .debug
     message := "Batch complete"
     fields :=
       [("batch", .natural pool.batch.index), ("outcomes", .natural pool.batch.jobs.length)] }]

end Pool

/-- How far an execution is. -/
inductive Stage where
  /-- It is the turn of the next batch. -/
  | turn
  | running (pool : Pool)
  /-- Between two batches, since the given time. -/
  | pausing (since : Duration)
  /-- No batch is left. -/
  | closing
  | returned
  deriving DecidableEq

/-- The application of a list of plans. -/
structure Execution where
  started : Duration
  concurrency : Nat
  stage : Stage
  /-- The batches whose turn has not come. -/
  remaining : List Batch
  /-- The outcomes of the batches that are over, in the order of the plans. -/
  outcomes : List Outcome
  /-- The plans put off. -/
  deferred : List Plan
  deriving DecidableEq

namespace Execution

/-- An execution that is about to begin. -/
def ofPlans (clock : Duration) (plans : List Plan) (batchSize concurrency : Nat) : Execution where
  started := clock
  concurrency := concurrency
  stage := .turn
  remaining := Batch.partition plans batchSize
  outcomes := []
  deferred := []

/-- The deadline has passed. -/
def isLate (execution : Execution) (settings : ExecutorSettings) (clock : Duration) : Bool :=
  settings.cycleDeadline.any fun limit => limit ≤ clock - execution.started

/-- The turn of the next batch: it starts, or all that is left is put off. -/
def takeTurn (execution : Execution) (settings : ExecutorSettings) (clock : Duration) :
    Execution × List Event :=
  match execution.remaining with
  | [] => ({ execution with stage := .closing }, [])
  | batch :: rest =>
      if execution.isLate settings clock then
        let deferred := execution.remaining.flatMap fun batch => batch.jobs.map Job.plan
        ({ execution with stage := .closing, remaining := [], deferred },
          [{ severity := .info
             message := "Cycle deadline reached, deferring remaining plans"
             fields :=
               [("deferred", .natural deferred.length),
                ("elapsed_ms", .natural (clock - execution.started).wholeMillis)] }])
      else
        ({ execution with
            stage := .running (.ofBatch batch execution.concurrency), remaining := rest },
          [{ severity := .debug
             message := "Starting batch"
             fields := [("batch", .natural batch.index), ("size", .natural batch.jobs.length)] }])

/-- The execution after the batch of a pool is over. -/
def leaveBatch (execution : Execution) (settings : ExecutorSettings) (clock : Duration)
    (pool : Pool) (now : Instant) : Execution :=
  let pauses := settings.batchDelayMillis ≠ 0 ∧ execution.remaining ≠ []
  { execution with
    stage := if pauses then .pausing clock else .turn
    outcomes := execution.outcomes ++ pool.outcomes now }

end Execution

end PodSizing
