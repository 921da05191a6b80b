import PodSizing.Proofs.Executor.Pool
import PodSizing.Proofs.Executor.Run

/-!
# Accounting for plans

The batches of an execution are finished, at work, still to come or put off, in this order, and
its outcomes and the plans put off are those of the finished batches and of the batches put off.
`Execution.Sound` says so of a state with the calls made so far; it holds when an execution begins
and is preserved by every step.
-/

namespace PodSizing

/-- What an execution begins with. -/
structure Order where
  started : Duration
  plans : List Plan
  batchSize : Nat
  concurrency : Nat

namespace Order

/-- The plans of an order, batch by batch. -/
def batches (order : Order) : List Batch := Batch.partition order.plans order.batchSize

/-- The execution that begins with an order. -/
def execution (order : Order) : Execution :=
  .ofPlans order.started order.plans order.batchSize order.concurrency

theorem flatMap_plans_batches (order : Order) : order.batches.flatMap Batch.plans = order.plans :=
  Batch.flatMap_plans_partition order.plans order.batchSize

theorem rising_of_mem_batches {order : Order} {batch : Batch} (mem : batch ∈ order.batches) :
    batch.jobs.Pairwise fun first second => first.position < second.position :=
  Batch.rising_of_mem_partition mem

end Order

namespace Stage

/-- The batch at work. -/
def batches (stage : Stage) : List Batch := (stage.pool?.map Pool.batch).toList

/-- No batch begins any more. -/
def isOver : Stage → Bool
  | .closing => true
  | .returned => true
  | _ => false

@[simp]
theorem batches_turn : turn.batches = [] := rfl

@[simp]
theorem batches_running (pool : Pool) : (running pool).batches = [pool.batch] := rfl

@[simp]
theorem batches_pausing (since : Duration) : (pausing since).batches = [] := rfl

@[simp]
theorem batches_closing : closing.batches = [] := rfl

@[simp]
theorem batches_returned : returned.batches = [] := rfl

/-- No batch is at work when none begins any more. -/
theorem batches_of_isOver {stage : Stage} (isOver : stage.isOver = true) : stage.batches = [] := by
  cases stage with
  | closing => rfl
  | returned => rfl
  | _ => contradiction

end Stage

namespace Execution

/-- Where the plans of an order are, when so many batches are finished and so many are put off. -/
structure Sound (order : Order) (calls : List Call) (execution : Execution)
    (finished putOff : List Batch) : Prop where
  batches : finished ++ execution.stage.batches ++ execution.remaining ++ putOff = order.batches
  outcomes : execution.outcomes.map Outcome.plan = finished.flatMap Batch.plans
  proper : ∀ outcome ∈ execution.outcomes, outcome.IsProper
  deferred : execution.deferred = putOff.flatMap Batch.plans
  started : execution.started = order.started
  concurrency : execution.concurrency = order.concurrency
  exhausted : execution.stage.isOver = true → execution.remaining = []
  notOver : execution.stage.isOver = false → putOff = []
  pool : ∀ pool, execution.stage = .running pool → pool.Sound order.concurrency
  calls : ∀ call ∈ calls, ∃ job ∈ (finished ++ execution.stage.batches).flatMap Batch.jobs,
    job.position = call.position ∧ ∃ attempt, call.request = job.plan.requestOf attempt

theorem sound_execution (order : Order) : Sound order [] order.execution [] [] where
  batches := by simp [Order.execution, ofPlans, Order.batches]
  outcomes := rfl
  proper := by simp [Order.execution, ofPlans]
  deferred := rfl
  started := rfl
  concurrency := rfl
  exhausted := by simp [Order.execution, ofPlans, Stage.isOver]
  notOver _ := rfl
  pool := by simp [Order.execution, ofPlans]
  calls := by simp

namespace Sound

variable {settings : ExecutorSettings} {allowed : Call → WorkerAction → Prop} {number : Nat}
  {order : Order} {calls made : List Call} {execution next : Execution}
  {finished putOff : List Batch}

/-- The batches of the order begin with those that are finished. -/
theorem batches_eq_append (sound : Sound order calls execution finished putOff) :
    order.batches =
      finished ++ (execution.stage.batches ++ execution.remaining ++ putOff) := by
  rw [← sound.batches]
  simp

/-- The batch at work is one of the order. -/
theorem mem_batches (sound : Sound order calls execution finished putOff) {pool : Pool}
    (stage : execution.stage = .running pool) : pool.batch ∈ order.batches := by
  rw [← sound.batches, stage]
  simp

theorem rising (sound : Sound order calls execution finished putOff) {pool : Pool}
    (stage : execution.stage = .running pool) :
    pool.batch.jobs.Pairwise fun first second => first.position < second.position :=
  Order.rising_of_mem_batches (sound.mem_batches stage)

/-- The stage may change to another one without a batch at work. -/
private theorem withStage (sound : Sound order calls execution finished putOff) {stage : Stage}
    (idle : execution.stage.batches = []) (noPool : stage.pool? = none)
    (exhausted : stage.isOver = true → execution.remaining = [])
    (notOver : stage.isOver = false → execution.stage.isOver = false) :
    Sound order calls { execution with stage } finished putOff := by
  have noBatches : stage.batches = [] := by simp [Stage.batches, noPool]
  refine ⟨?_, sound.outcomes, sound.proper, sound.deferred, sound.started, sound.concurrency,
    exhausted, fun still => sound.notOver (notOver still), ?_, ?_⟩
  · simpa [noBatches, idle] using sound.batches
  · rintro pool rfl
    simp [Stage.pool?] at noPool
  · simpa [noBatches, idle] using sound.calls

private theorem beginBatch (sound : Sound order calls execution finished putOff) {batch : Batch}
    {rest : List Batch} (stage : execution.stage = .turn)
    (remaining : execution.remaining = batch :: rest) :
    Sound order calls
      { execution with
        stage := .running (.ofBatch batch execution.concurrency)
        remaining := rest }
      finished putOff := by
  refine ⟨?_, sound.outcomes, sound.proper, sound.deferred, sound.started, sound.concurrency,
    by simp [Stage.isOver], fun _ => sound.notOver (by simp [stage, Stage.isOver]), ?_, ?_⟩
  · simpa [stage, remaining, Pool.ofBatch] using sound.batches
  · rintro pool ⟨⟩
    rw [← sound.concurrency]
    exact Pool.sound_ofBatch batch _
  · intro call mem
    obtain ⟨job, inBatches, isFor⟩ := sound.calls call mem
    rw [stage, Stage.batches_turn, List.append_nil] at inBatches
    refine ⟨job, ?_, isFor⟩
    rw [List.flatMap_append]
    exact List.mem_append_left _ inBatches

private theorem putOffAll (sound : Sound order calls execution finished putOff)
    (stage : execution.stage = .turn) :
    Sound order calls
      { execution with
        stage := .closing
        remaining := []
        deferred := execution.remaining.flatMap fun batch => batch.jobs.map Job.plan }
      finished execution.remaining := by
  have noneYet : putOff = [] := sound.notOver (by simp [stage, Stage.isOver])
  refine ⟨?_, sound.outcomes, sound.proper, rfl, sound.started, sound.concurrency, fun _ => rfl,
    by simp [Stage.isOver], by simp, ?_⟩
  · simpa [stage, noneYet] using sound.batches
  · simpa [stage] using sound.calls

private theorem work (sound : Sound order calls execution finished putOff) {pool : Pool}
    {worker after : Worker} {place afterPlace : Workplace} {clock : Duration} {index : Nat}
    {action : WorkerAction} (stage : execution.stage = .running pool)
    (present : pool.workers[index]? = some worker)
    (step : Worker.Step settings clock ⟨number, index⟩ worker place action after afterPlace)
    (queue : place.queue = pool.queue) (more : afterPlace.calls = place.calls ++ made) :
    Sound order (calls ++ made)
      (execution.withPool (pool.withWorker index after afterPlace.queue)) finished putOff := by
  have poolSound := sound.pool pool stage
  refine ⟨?_, sound.outcomes, sound.proper, sound.deferred, sound.started, sound.concurrency,
    by simp [withPool, Stage.isOver], fun _ => sound.notOver (by simp [stage, Stage.isOver]), ?_,
    ?_⟩
  · simpa [stage, withPool, Pool.withWorker] using sound.batches
  · rintro _ ⟨⟩
    exact poolSound.withWorker present step queue
  · have same : (execution.withPool (pool.withWorker index after afterPlace.queue)).stage.batches =
        execution.stage.batches := by simp [stage, withPool, Pool.withWorker]
    rw [same]
    intro call mem
    rcases List.mem_append.mp mem with earlier | new
    · exact sound.calls call earlier
    · obtain ⟨job, taken, isFor⟩ := step.job_of_calls more call new
      have inBatch := poolSound.mem_jobs (List.mem_of_getElem? present) taken
      exact ⟨job, by simp [stage, inBatch], isFor⟩

private theorem join (sound : Sound order calls execution finished putOff) {pool : Pool}
    {clock : Duration} (now : Instant) (stage : execution.stage = .running pool) :
    Sound order calls (execution.leaveBatch settings clock pool now)
      (finished ++ [pool.batch]) putOff := by
  have poolSound := sound.pool pool stage
  have outcomesEq := poolSound.outcomes_eq (sound.rising stage) now
  have ofJobs {job : Job} (mem : job ∈ pool.batch.jobs) :=
    poolSound.plan_outcomeOf (sound.rising stage) now mem
  have idle : (execution.leaveBatch settings clock pool now).stage.batches = [] := by
    simp only [leaveBatch]
    split <;> rfl
  refine ⟨?_, ?_, ?_, sound.deferred, sound.started, sound.concurrency, ?_, ?_, ?_, ?_⟩
  · rw [idle]
    simpa [stage, leaveBatch] using sound.batches
  · have plansEq : (pool.outcomes now).map Outcome.plan = pool.batch.plans := by
      rw [outcomesEq, List.map_map, Batch.plans]
      exact List.map_congr_left fun job mem => (ofJobs mem).1
    simp [leaveBatch, sound.outcomes, plansEq]
  · intro outcome mem
    rcases List.mem_append.mp mem with earlier | new
    · exact sound.proper outcome earlier
    · rw [outcomesEq] at new
      rcases List.mem_map.mp new with ⟨job, inBatch, rfl⟩
      exact (ofJobs inBatch).2
  · simp only [leaveBatch]
    split <;> simp [Stage.isOver]
  · exact fun _ => sound.notOver (by simp [stage, Stage.isOver])
  · simp only [leaveBatch]
    split <;> simp
  · rw [idle, List.append_nil]
    simpa [stage] using sound.calls

/-- A step moves batches on, and none back. -/
theorem step (sound : Sound order calls execution finished putOff)
    (step : Step settings allowed number execution made next) :
    ∃ nextFinished nextPutOff, Sound order (calls ++ made) next nextFinished nextPutOff ∧
      finished ++ execution.stage.batches <+: nextFinished ++ next.stage.batches := by
  cases step with
  | beginBatch stage remaining early =>
      exact ⟨finished, putOff, by simpa using sound.beginBatch stage remaining, by simp [stage]⟩
  | putOff stage remaining late =>
      exact ⟨finished, _, by simpa [remaining] using sound.putOffAll stage, by simp [stage]⟩
  | runOut stage remaining =>
      refine ⟨finished, putOff, ?_, by simp [stage]⟩
      simpa using
        sound.withStage (by simp [stage]) rfl (fun _ => remaining) (by simp [Stage.isOver])
  | work stage present step queue more ends =>
      exact ⟨finished, putOff, sound.work stage present step queue more,
        by simp [stage, withPool, Pool.withWorker]⟩
  | @join pool clock now stage isOver =>
      exact ⟨finished ++ [pool.batch], putOff, by simpa using sound.join now stage,
        by simp [stage]⟩
  | resume stage =>
      refine ⟨finished, putOff, ?_, by simp [stage]⟩
      simpa using sound.withStage (by simp [stage]) rfl (by simp [Stage.isOver])
        (by simp [stage, Stage.isOver])
  | close stage =>
      refine ⟨finished, putOff, ?_, by simp [stage]⟩
      have noneLeft := sound.exhausted (by simp [stage, Stage.isOver])
      simpa using sound.withStage (by simp [stage]) rfl (fun _ => noneLeft) (by simp [Stage.isOver])

theorem run (sound : Sound order calls execution finished putOff)
    (run : Run settings allowed number execution made next) :
    ∃ nextFinished nextPutOff, Sound order (calls ++ made) next nextFinished nextPutOff ∧
      finished ++ execution.stage.batches <+: nextFinished ++ next.stage.batches := by
  induction run with
  | refl => exact ⟨finished, putOff, by simpa using sound, List.prefix_refl _⟩
  | tail _ step ih =>
      rcases ih with ⟨middleFinished, middlePutOff, middleSound, before⟩
      obtain ⟨nextFinished, nextPutOff, nextSound, after⟩ := middleSound.step step
      rw [List.append_assoc] at nextSound
      exact ⟨nextFinished, nextPutOff, nextSound, before.trans after⟩

/-- When no batch is at work or to come, every plan has an outcome or was put off. -/
theorem plans_eq (sound : Sound order calls execution finished putOff)
    (isOver : execution.stage.isOver = true) :
    execution.outcomes.map Outcome.plan ++ execution.deferred = order.plans := by
  have batches := sound.batches
  rw [Stage.batches_of_isOver isOver, sound.exhausted isOver, List.append_nil, List.append_nil]
    at batches
  rw [sound.outcomes, sound.deferred, ← List.flatMap_append, batches, order.flatMap_plans_batches]

/-- The plans put off begin where a batch begins. -/
theorem dvd_length_outcomes (sound : Sound order calls execution finished putOff)
    (some_deferred : execution.deferred ≠ []) :
    max order.batchSize 1 ∣ execution.outcomes.length := by
  have some_putOff : putOff ≠ [] := by
    rintro rfl
    exact some_deferred sound.deferred
  have length := Batch.length_flatMap_plans_of_partition_eq sound.batches_eq_append
    (by simp [some_putOff])
  rw [← sound.outcomes, List.length_map] at length
  exact ⟨finished.length, length.trans (Nat.mul_comm _ _)⟩

/-- A call is for the plan of the order at its position. -/
theorem plan_of_call (sound : Sound order calls execution finished putOff) {call : Call}
    (mem : call ∈ calls) :
    ∃ plan attempt, order.plans[call.position]? = some plan ∧
      call.request = plan.requestOf attempt := by
  obtain ⟨job, inBatches, position, attempt, request⟩ := sound.calls call mem
  rcases List.mem_flatMap.mp inBatches with ⟨batch, isBatch, inBatch⟩
  have ofOrder : batch ∈ order.batches := by
    rw [← sound.batches]
    exact List.mem_append_left _ (List.mem_append_left _ isBatch)
  have here := Batch.getElem?_of_mem_jobsOf (Batch.mem_jobsOf_of_mem_partition ofOrder inBatch)
  rw [position] at here
  exact ⟨job.plan, attempt, here, request⟩

/-- When no batch is at work, no call was made for a plan without an outcome. -/
theorem position_lt_of_call (sound : Sound order calls execution finished putOff)
    (idle : execution.stage.batches = []) {call : Call} (mem : call ∈ calls) :
    call.position < execution.outcomes.length := by
  obtain ⟨job, inBatches, position, -⟩ := sound.calls call mem
  rw [idle, List.append_nil] at inBatches
  rw [← position, ← List.length_map Outcome.plan, sound.outcomes]
  exact Batch.position_lt_of_partition_eq sound.batches_eq_append inBatches

end Sound

end Execution

end PodSizing
