import PodSizing.Proofs.Executor.PodLocks
import PodSizing.Proofs.Executor.Run

/-!
# Exclusive use of pods

The claims to the pod locks of an executor are read off the states of its workers, and the locks
are sound for these claims in every state that can be reached.  So a pod is visited for one plan
at a time: the calls for it are those of one plan after the other.
-/

namespace PodSizing

namespace Worker

/-- The claim of a worker to a lock. -/
def claim? (worker : Worker) : Option Claim :=
  match worker.state with
  | .queueing job lock => some ⟨job.plan.container.pod, lock, .lookedUp⟩
  | .waiting job lock => some ⟨job.plan.container.pod, lock, .waiting⟩
  | .calling job lock _ _ => some ⟨job.plan.container.pod, lock, .calling⟩
  | _ => none

variable {settings : ExecutorSettings} {clock : Duration} {id : WorkerId}
  {worker next : Worker} {place nextPlace : Workplace} {action : WorkerAction}

/-- A step of a worker keeps the locks sound. -/
theorem Step.locks_sound {claims : WorkerId → Option Claim}
    (step : Step settings clock id worker place action next nextPlace)
    (sound : place.locks.Sound claims) (claimed : claims id = worker.claim?) :
    nextPlace.locks.Sound (Function.update claims id next.claim?) := by
  have unchanged (same : next.claim? = worker.claim?) :
      Function.update claims id next.claim? = claims := by
    rw [same, ← claimed, Function.update_eq_self]
  cases step with
  | leave none_left =>
      rw [unchanged rfl]
      exact sound
  | take first =>
      rw [unchanged rfl]
      exact sound
  | skip now nothing =>
      rw [unchanged rfl]
      exact sound
  | lookUp now something => exact sound.lookUp claimed _
  | enqueue => exact sound.enqueue claimed rfl
  | start held => exact sound.start claimed rfl held
  | finish ends settled => exact sound.release claimed rfl
  | retry ends again =>
      rw [unchanged rfl]
      exact sound
  | breakDown => exact sound.release claimed rfl

end Worker

/-- No worker has a claim to a lock. -/
def Stage.IsFree (stage : Stage) : Prop :=
  ∀ pool, stage.pool? = some pool → ∀ worker ∈ pool.workers, worker.claim? = none

theorem Stage.isFree_of_pool?_eq_none {stage : Stage} (idle : stage.pool? = none) :
    stage.IsFree := by
  intro pool some_pool
  rw [idle] at some_pool
  contradiction

theorem Pool.isFree_ofBatch (batch : Batch) (concurrency : Nat) :
    (Stage.running (.ofBatch batch concurrency)).IsFree := by
  rintro pool ⟨⟩ worker mem
  rcases List.mem_replicate.mp mem with ⟨-, rfl⟩
  rfl

/-- Workers that are gone have no claims. -/
theorem Pool.isFree_of_isOver {pool : Pool} (isOver : pool.isOver = true) :
    (Stage.running pool).IsFree := by
  rintro _ ⟨⟩ worker mem
  have gone := List.all_eq_true.mp isOver worker mem
  cases state : worker.state with
  | left => simp [Worker.claim?, state]
  | lost => simp [Worker.claim?, state]
  | _ => simp [Worker.isGone, state] at gone

theorem Execution.isFree_takeTurn {execution : Execution} (settings : ExecutorSettings)
    (clock : Duration) : (execution.takeTurn settings clock).1.stage.IsFree := by
  unfold takeTurn
  split
  · exact Stage.isFree_of_pool?_eq_none rfl
  · split
    · exact Stage.isFree_of_pool?_eq_none rfl
    · exact Pool.isFree_ofBatch _ _

theorem Execution.isFree_leaveBatch {execution : Execution} (settings : ExecutorSettings)
    (clock : Duration) (pool : Pool) (now : Instant) :
    (execution.leaveBatch settings clock pool now).stage.IsFree := by
  apply Stage.isFree_of_pool?_eq_none
  simp only [leaveBatch]
  split <;> rfl

namespace Executor

/-- The claim of a worker to a lock. -/
def claim? (executor : Executor) (id : WorkerId) : Option Claim :=
  (executor.worker? id).bind Worker.claim?

/-- Each worker is as before, or it had no claim and has none. -/
def SameClaims (executor next : Executor) : Prop :=
  ∀ id, next.worker? id = executor.worker? id ∨
    (executor.claim? id = none ∧ next.claim? id = none)

variable {executor next : Executor} {action : Action}

theorem SameClaims.claim?_eq (same : executor.SameClaims next) :
    next.claim? = executor.claim? := by
  funext id
  rcases same id with eq | ⟨before, after⟩
  · rw [claim?, claim?, eq]
  · rw [before, after]

theorem claim?_of_isFree {id : WorkerId} {execution : Execution}
    (here : executor.executions[id.execution]? = some execution) (free : execution.stage.IsFree) :
    executor.claim? id = none := by
  rw [claim?, worker?, pool?, here, Option.bind_some]
  cases running : execution.stage.pool? with
  | none => rfl
  | some pool =>
      rw [Option.bind_some]
      cases present : pool.workers[id.number]? with
      | none => rfl
      | some worker => exact free pool running worker (List.mem_of_getElem? present)

/-- An execution may be replaced by another one when neither has claims. -/
private theorem sameClaims_of_set {number : Nat} {execution after : Execution}
    (here : executor.executions[number]? = some execution) (free : execution.stage.IsFree)
    (freeAfter : after.stage.IsFree)
    (replaced : next.executions = executor.executions.set number after) :
    executor.SameClaims next := by
  intro id
  by_cases eq : number = id.execution
  · rcases List.getElem?_eq_some_iff.mp here with ⟨bound, -⟩
    subst number
    refine .inr ⟨claim?_of_isFree here free, claim?_of_isFree ?_ freeAfter⟩
    rw [replaced, List.getElem?_set_self bound]
  · left
    rw [worker?, worker?, pool?, pool?, replaced, List.getElem?_set_ne eq]

/-- When a worker acts, the others stay as they are. -/
private theorem worker?_withWork {id : WorkerId} {execution : Execution} {pool : Pool}
    {worker : Worker} (here : executor.executions[id.execution]? = some execution)
    (stage : execution.stage = .running pool) (present : pool.workers[id.number]? = some worker)
    (after : Worker) (place : Workplace) :
    (executor.withWork id.execution
      (execution.withPool (pool.withWorker id.number after place.queue)) place).worker? =
        Function.update executor.worker? id (some after) := by
  rcases List.getElem?_eq_some_iff.mp here with ⟨bound, -⟩
  rcases List.getElem?_eq_some_iff.mp present with ⟨inPool, -⟩
  funext other
  by_cases execution_eq : id.execution = other.execution
  · have there : (executor.withWork id.execution (execution.withPool
        (pool.withWorker id.number after place.queue)) place).executions[other.execution]? =
          some (execution.withPool (pool.withWorker id.number after place.queue)) := by
      rw [← execution_eq]
      exact List.getElem?_set_self bound
    rw [worker?_of_running there rfl]
    by_cases number_eq : id.number = other.number
    · have same : other = id := by
        rcases other with ⟨otherExecution, otherNumber⟩
        rcases id with ⟨idExecution, idNumber⟩
        simp_all
      subst other
      rw [Function.update_self]
      exact List.getElem?_set_self inPool
    · have ne : other ≠ id := fun eq => number_eq (congrArg WorkerId.number eq).symm
      rw [Function.update_of_ne ne, worker?_of_running (execution_eq ▸ here) stage]
      exact List.getElem?_set_ne number_eq
  · have ne : other ≠ id := fun eq => execution_eq (congrArg WorkerId.execution eq).symm
    rw [Function.update_of_ne ne, worker?, worker?, pool?, pool?, withWork,
      List.getElem?_set_ne execution_eq]

/-- What a step does to the locks: a worker acts, or at most unused locks are dropped. -/
inductive LockStep (executor next : Executor) : Prop
  | work {id : WorkerId} {worker after : Worker} {place nextPlace : Workplace}
      {action : WorkerAction} (present : executor.worker? id = some worker)
      (step : Worker.Step executor.settings executor.clock id worker place action after nextPlace)
      (locks : place.locks = executor.locks) (calls : place.calls = executor.calls)
      (workers : next.worker? = Function.update executor.worker? id (some after))
      (nextLocks : next.locks = nextPlace.locks) (nextCalls : next.calls = nextPlace.calls)
  | keep (same : executor.SameClaims next) (calls : next.calls = executor.calls)
      (locks : next.locks = executor.locks)
  | prune (same : executor.SameClaims next) (calls : next.calls = executor.calls)
      (locks : next.locks = executor.locks.prune)

theorem Step.lockStep (step : Step executor action next) : LockStep executor next := by
  cases step with
  | elapse time => exact .keep (fun _ => .inl rfl) rfl rfl
  | execute plans batchSize concurrency =>
      refine .keep ?_ rfl rfl
      intro id
      rcases Nat.lt_trichotomy id.execution executor.executions.length with old | new | absent
      · left
        simp [worker?, pool?, List.getElem?_append_left old]
      · left
        simp [worker?, pool?, new, Execution.ofPlans, Stage.pool?]
      · left
        rw [worker?, worker?, pool?, pool?, List.getElem?_eq_none, List.getElem?_eq_none]
        · omega
        · simp only [List.length_append, List.length_singleton]
          omega
  | turn here stage =>
      refine .keep (sameClaims_of_set here ?_ (Execution.isFree_takeTurn _ _) rfl) rfl rfl
      exact Stage.isFree_of_pool?_eq_none (by rw [stage]; rfl)
  | @work id action execution pool worker after place here stage present step =>
      exact .work (by rw [worker?_of_running here stage, present]) step rfl rfl
        (worker?_withWork here stage present after place) rfl rfl
  | join here stage isOver =>
      refine .keep (sameClaims_of_set here ?_ (Execution.isFree_leaveBatch _ _ _ _) rfl) rfl rfl
      rw [stage]
      exact Pool.isFree_of_isOver isOver
  | resume here stage late =>
      refine .keep (sameClaims_of_set here ?_ (Stage.isFree_of_pool?_eq_none rfl) rfl) rfl rfl
      exact Stage.isFree_of_pool?_eq_none (by rw [stage]; rfl)
  | close here stage =>
      refine .prune (sameClaims_of_set here ?_ (Stage.isFree_of_pool?_eq_none rfl) rfl) rfl rfl
      exact Stage.isFree_of_pool?_eq_none (by rw [stage]; rfl)

/-- The locks are used as the workers claim. -/
theorem LockStep.locks_sound (step : LockStep executor next)
    (sound : executor.locks.Sound executor.claim?) : next.locks.Sound next.claim? := by
  cases step with
  | @work id worker after place nextPlace action present step locks calls workers nextLocks
      nextCalls =>
      have claims : next.claim? = Function.update executor.claim? id after.claim? := by
        funext other
        rw [claim?, workers]
        by_cases eq : other = id
        · subst other
          simp
        · simp [eq, claim?]
      rw [nextLocks, claims]
      exact step.locks_sound (locks ▸ sound) (by rw [claim?, present, Option.bind_some])
  | keep same calls locks =>
      rw [locks, same.claim?_eq]
      exact sound
  | prune same calls locks =>
      rw [locks, same.claim?_eq]
      exact sound.prune

theorem locks_sound_ofSettings (settings : ExecutorSettings) :
    (ofSettings settings).locks.Sound (ofSettings settings).claim? := by
  have nobody : (ofSettings settings).claim? = fun _ => none := rfl
  rw [nobody]
  exact PodLocks.sound_empty

theorem locks_sound_of_run? {settings : ExecutorSettings} {actions : List Action}
    (run : (ofSettings settings).run? actions = some executor) :
    executor.locks.Sound executor.claim? :=
  run?_preserves (fun state => state.locks.Sound state.claim?)
    (fun sound step => step.lockStep.locks_sound sound) run (locks_sound_ofSettings settings)

/-- A worker that has a claim is at work for an execution that has not returned. -/
theorem exists_unreturned_of_claim? {id : WorkerId} {claim : Claim}
    (claimed : executor.claim? id = some claim) :
    ∃ execution ∈ executor.executions, execution.stage ≠ .returned := by
  rw [claim?, Option.bind_eq_some_iff] at claimed
  rcases claimed with ⟨worker, present, -⟩
  rw [worker?, Option.bind_eq_some_iff] at present
  rcases present with ⟨pool, running, -⟩
  rw [pool?, Option.bind_eq_some_iff] at running
  rcases running with ⟨execution, here, running⟩
  refine ⟨execution, List.mem_of_getElem? here, ?_⟩
  intro returned
  rw [returned] at running
  contradiction

/-- A step that replaces an execution leaves one that has not returned. -/
private theorem exists_unreturned_of_set {number : Nat} {execution after : Execution}
    (here : executor.executions[number]? = some execution) (unreturned : after.stage ≠ .returned)
    (replaced : next.executions = executor.executions.set number after) :
    ∃ execution ∈ next.executions, execution.stage ≠ .returned := by
  rcases List.getElem?_eq_some_iff.mp here with ⟨bound, -⟩
  refine ⟨after, ?_, unreturned⟩
  rw [replaced]
  exact List.mem_of_getElem? (List.getElem?_set_self bound)

/-- While the table holds a lock, some execution has not returned. -/
def LocksInUse (executor : Executor) : Prop :=
  executor.locks.table ≠ [] → ∃ execution ∈ executor.executions, execution.stage ≠ .returned

theorem Step.locksInUse (step : Step executor action next)
    (sound : executor.locks.Sound executor.claim?) (inUse : executor.LocksInUse) :
    next.LocksInUse := by
  intro someLock
  cases step with
  | elapse time => exact inUse someLock
  | execute plans batchSize concurrency =>
      obtain ⟨execution, mem, unreturned⟩ := inUse someLock
      exact ⟨execution, List.mem_append_left _ mem, unreturned⟩
  | turn here stage =>
      apply exists_unreturned_of_set here _ rfl
      unfold Execution.takeTurn
      split
      · simp
      · split <;> simp
  | work here stage present step =>
      exact exists_unreturned_of_set here (by simp [Execution.withPool]) rfl
  | join here stage isOver =>
      apply exists_unreturned_of_set here _ rfl
      simp only [Execution.leaveBatch]
      split <;> simp
  | resume here stage late => exact exists_unreturned_of_set here (by simp) rfl
  | @close number execution here stage =>
      -- If all executions have returned, then nobody has a claim and every lock was dropped.
      apply Decidable.byContradiction
      intro allReturned
      apply someLock
      apply sound.table_prune_eq_nil
      intro id
      rw [Option.eq_none_iff_forall_ne_some]
      intro claim claimed
      have free : execution.stage.IsFree := Stage.isFree_of_pool?_eq_none (by rw [stage]; rfl)
      have same : executor.SameClaims { executor with
          locks := executor.locks.prune
          executions := executor.executions.set number { execution with stage := .returned } } :=
        sameClaims_of_set here free (Stage.isFree_of_pool?_eq_none rfl) rfl
      rw [← same.claim?_eq] at claimed
      exact allReturned (exists_unreturned_of_claim? claimed)

theorem locksInUse_of_run? {settings : ExecutorSettings} {actions : List Action}
    (run : (ofSettings settings).run? actions = some executor) : executor.LocksInUse := by
  have both := run?_preserves
    (fun state => state.locks.Sound state.claim? ∧ state.LocksInUse)
    (fun sound step => ⟨step.lockStep.locks_sound sound.1, step.locksInUse sound.1 sound.2⟩) run
    ⟨locks_sound_ofSettings settings, by simp [LocksInUse, ofSettings, PodLocks.empty]⟩
  exact both.2

end Executor

end PodSizing
