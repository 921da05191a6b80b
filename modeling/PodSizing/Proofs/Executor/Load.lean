import Mathlib.Algebra.GroupWithZero.Nat
import PodSizing.Proofs.Executor.Run
import PodSizing.Proofs.Plan.Batch

/-!
# Load

The load of an executor bounds the work that is left: everything but the passing of time and the
beginning of executions takes from it.  A plan adds ten to the load at most, so that every run
comes to an end.
-/

namespace PodSizing

/-- The action is neither the passing of time nor the beginning of an execution. -/
def Action.isWork : Action → Bool
  | .elapse _ => false
  | .execute _ _ _ => false
  | _ => true

/-- The most that an action adds to the load. -/
def Action.cost : Action → Nat
  | .execute plans _ _ => 10 * plans.length + 2
  | _ => 0

/-- The steps that a worker has before it, those for further plans apart. -/
def Worker.load (worker : Worker) : Nat :=
  match worker.state with
  | .free => 1
  | .opening _ => 6
  | .queueing _ _ => 5
  | .waiting _ _ => 4
  | .calling _ _ .whole _ => 3
  | .calling _ _ (.reduced _) _ => 2
  | .left => 0
  | .lost => 0

/-- The steps that a pool has before it. -/
def Pool.load (pool : Pool) : Nat := 6 * pool.queue.length + (pool.workers.map Worker.load).sum

/-- The steps for a batch that has not begun. -/
def Batch.load (batch : Batch) : Nat := 7 * batch.jobs.length + 3

namespace Stage

/-- The steps of a stage, those for further batches apart. -/
def load : Stage → Nat
  | .turn => 2
  | .running pool => pool.load + 4
  | .pausing _ => 3
  | .closing => 1
  | .returned => 0

end Stage

/-- The steps that an execution has before it. -/
def Execution.load (execution : Execution) : Nat :=
  execution.stage.load + (execution.remaining.map Batch.load).sum

/-- The steps that all executions have before them. -/
def Executor.load (executor : Executor) : Nat := (executor.executions.map Execution.load).sum

/-- The sum over a list when one entry is replaced. -/
private theorem sum_map_set {α : Type} (weight : α → Nat) {items : List α} {index : Nat}
    {item : α} (here : items[index]? = some item) (other : α) :
    ((items.set index other).map weight).sum + weight item =
      (items.map weight).sum + weight other := by
  induction items generalizing index with
  | nil => simp at here
  | cons head rest ih =>
      cases index with
      | zero =>
          rw [List.getElem?_cons_zero, Option.some.injEq] at here
          subst head
          simp only [List.set_cons_zero, List.map_cons, List.sum_cons]
          omega
      | succ index =>
          rw [List.getElem?_cons_succ] at here
          have replaced := ih here
          simp only [List.set_cons_succ, List.map_cons, List.sum_cons]
          omega

namespace Worker

variable {settings : ExecutorSettings} {clock : Duration} {id : WorkerId}
  {worker next : Worker} {place nextPlace : Workplace} {action : WorkerAction}

/-- A worker takes from the load of its pool. -/
theorem Step.load_lt (step : Step settings clock id worker place action next nextPlace) :
    6 * nextPlace.queue.length + next.load < 6 * place.queue.length + worker.load := by
  cases step with
  | leave none_left => simp [load]
  | take first =>
      rw [first, List.length_cons]
      simp only [load]
      omega
  | skip now nothing => simp [load]
  | lookUp now something => simp [load]
  | enqueue => simp [load]
  | start held => simp [load, Workplace.withCall]
  | @finish _ _ _ _ attempt => cases attempt <;> simp [load, Workplace.withReply]
  | retry ends again => simp [load, Workplace.withReply, Workplace.withCall]
  | @breakDown _ _ _ _ attempt => cases attempt <;> simp [load]

end Worker

theorem Pool.load_withWorker_lt {pool : Pool} {index : Nat} {worker next : Worker}
    {settings : ExecutorSettings} {clock : Duration} {id : WorkerId} {place nextPlace : Workplace}
    {action : WorkerAction} (present : pool.workers[index]? = some worker)
    (step : Worker.Step settings clock id worker place action next nextPlace)
    (queue : place.queue = pool.queue) :
    (pool.withWorker index next nextPlace.queue).load < pool.load := by
  have less := step.load_lt
  have replaced := sum_map_set Worker.load present next
  rw [queue] at less
  simp only [load, withWorker]
  omega

theorem Pool.load_ofBatch_le (batch : Batch) (concurrency : Nat) :
    (ofBatch batch concurrency).load ≤ 7 * batch.jobs.length := by
  have workers : ((List.replicate (min (max concurrency 1) batch.jobs.length) Worker.fresh).map
      Worker.load).sum = min (max concurrency 1) batch.jobs.length := by
    simp [Worker.load, Worker.fresh]
  simp only [load, ofBatch, workers]
  omega

namespace Batch

/-- A list of plans makes for a load of ten for each of them at most. -/
theorem sum_load_partition_le (plans : List Plan) (size : Nat) :
    ((partition plans size).map load).sum ≤ 10 * plans.length := by
  have nonempty : ∀ batch ∈ partition plans size, 1 ≤ batch.jobs.length :=
    fun batch mem => List.length_pos_iff.mpr (jobs_ne_nil_of_mem_partition mem)
  have total : ((partition plans size).map fun batch => batch.jobs.length).sum = plans.length := by
    have lengths := congrArg List.length (flatMap_jobs_partition plans size)
    rwa [List.length_flatMap, length_jobsOf] at lengths
  rw [← total]
  clear total
  generalize partition plans size = batches at nonempty ⊢
  induction batches with
  | nil => simp
  | cons batch rest ih =>
      have some_jobs := nonempty batch List.mem_cons_self
      have fewer := ih fun other mem => nonempty other (List.mem_cons_of_mem batch mem)
      simp only [List.map_cons, List.sum_cons, load]
      omega

end Batch

theorem Execution.load_ofPlans_le (clock : Duration) (plans : List Plan)
    (batchSize concurrency : Nat) :
    (ofPlans clock plans batchSize concurrency).load ≤ 10 * plans.length + 2 := by
  have batches := Batch.sum_load_partition_le plans batchSize
  simp only [load, ofPlans, Stage.load]
  omega

theorem Execution.load_takeTurn_lt {execution : Execution} (settings : ExecutorSettings)
    (clock : Duration) (stage : execution.stage = .turn) :
    (execution.takeTurn settings clock).1.load < execution.load := by
  unfold takeTurn
  split
  · simp [load, stage, Stage.load]
  · rename_i batch rest remaining
    split
    · simp only [load, stage, Stage.load, List.map_nil, List.sum_nil]
      omega
    · have pool := Pool.load_ofBatch_le batch execution.concurrency
      simp only [load, stage, Stage.load, remaining, List.map_cons, List.sum_cons, Batch.load]
      omega

theorem Execution.load_leaveBatch_lt {execution : Execution} (settings : ExecutorSettings)
    (clock : Duration) {pool : Pool} (now : Instant) (stage : execution.stage = .running pool) :
    (execution.leaveBatch settings clock pool now).load < execution.load := by
  simp only [load, leaveBatch, stage]
  split
  · simp only [Stage.load]
    omega
  · simp only [Stage.load]
    omega

namespace Executor

variable {executor next last : Executor} {action : Action} {actions : List Action}

/-- An execution that is replaced by one with less before it takes from the load. -/
private theorem load_lt_of_set {number : Nat} {execution after : Execution}
    (here : executor.executions[number]? = some execution) (less : after.load < execution.load)
    (replaced : next.executions = executor.executions.set number after) :
    next.load < executor.load := by
  have sums := sum_map_set Execution.load here after
  rw [load, load, replaced]
  omega

/-- Work takes from the load, and only the beginning of an execution adds to it. -/
theorem Step.load_le (step : Step executor action next) :
    next.load + (if action.isWork then 1 else 0) ≤ executor.load + action.cost := by
  cases step with
  | elapse time => simp [load, Action.isWork]
  | execute plans batchSize concurrency =>
      have added := Execution.load_ofPlans_le executor.clock plans batchSize concurrency
      simp only [load, Action.isWork, Action.cost, List.map_append, List.map_cons, List.map_nil,
        List.sum_append, List.sum_cons, List.sum_nil]
      simp only [Bool.false_eq_true, if_false]
      omega
  | turn here stage =>
      exact load_lt_of_set here (Execution.load_takeTurn_lt _ _ stage) rfl
  | work here stage present step =>
      apply load_lt_of_set here _ rfl
      have less := Pool.load_withWorker_lt present step rfl
      simp only [Execution.load, Execution.withPool, stage, Stage.load]
      omega
  | join here stage isOver =>
      exact load_lt_of_set here (Execution.load_leaveBatch_lt _ _ _ stage) rfl
  | resume here stage late =>
      apply load_lt_of_set here _ rfl
      simp [Execution.load, stage, Stage.load]
  | close here stage =>
      apply load_lt_of_set here _ rfl
      simp [Execution.load, stage, Stage.load]

/-- The work of a run is bounded by the load at its start and the executions that it begins. -/
theorem load_le_of_run? (run : executor.run? actions = some last) :
    last.load + actions.countP Action.isWork ≤
      executor.load + (actions.map Action.cost).sum := by
  induction actions generalizing executor with
  | nil =>
      cases run
      simp
  | cons action rest ih =>
      rcases run?_cons_eq_some_iff.mp run with ⟨next, step, run⟩
      have first := step.load_le
      have others := ih run
      rw [List.countP_cons, List.map_cons, List.sum_cons]
      omega

/-- A run does ten pieces of work for each plan and two for each execution at most. -/
theorem countP_isWork_le {settings : ExecutorSettings}
    (run : (ofSettings settings).run? actions = some last) :
    actions.countP Action.isWork ≤ (actions.map Action.cost).sum := by
  have bound := load_le_of_run? run
  have unused : (ofSettings settings).load = 0 := rfl
  omega

end Executor

end PodSizing
