import PodSizing.Proofs.Executor.Exclusivity
import PodSizing.Proofs.Executor.Load

/-!
# Progress

Whatever the runtime does with its calls, an executor with an execution that has not returned can
go on after some time: no order in which plans share pods makes its workers wait for each other
for ever.  As the load falls with every piece of work, all executions can be brought to an end.
-/

namespace PodSizing

/-- The action ends a call. -/
def WorkerAction.endsCall : WorkerAction → Bool
  | .answer _ _ => true
  | .expire _ => true
  | .breakDown => true
  | _ => false

/-- What a runtime may do: the ends that each call can have.  A call that never ends for the
runtime is given up by its caller. -/
structure Runtime where
  allows : Call → WorkerAction → Prop
  ends : ∀ call, ∃ action, action.endsCall = true ∧ allows call action

namespace Worker

variable {settings : ExecutorSettings} {clock : Duration} {id : WorkerId} {worker : Worker}

/-- A worker on its way to the lock of a pod can act. -/
theorem exists_step_of_unlocked (place : Workplace) (notGone : worker.isGone = false)
    (notWaiting : ∀ claim, worker.claim? = some claim → claim.stage = .lookedUp) :
    ∃ action next nextPlace, Step settings clock id worker place action next nextPlace := by
  rcases worker with ⟨state, done⟩
  cases state with
  | free =>
      cases first : place.queue with
      | nil => exact ⟨_, _, _, .leave first⟩
      | cons job rest => exact ⟨_, _, _, .take first⟩
  | opening job =>
      cases begun : job.plan.begin settings.dryRun with
      | finished statuses => exact ⟨_, _, _, .skip default begun⟩
      | calling attempt =>
          obtain ⟨rfl, -⟩ := Plan.begin_eq_calling begun
          exact ⟨_, _, _, .lookUp default begun⟩
  | queueing job lock => exact ⟨_, _, _, .enqueue⟩
  | waiting job lock =>
      have lookedUp := notWaiting _ rfl
      contradiction
  | calling job lock attempt since =>
      have lookedUp := notWaiting _ rfl
      contradiction
  | left => simp [isGone] at notGone
  | lost => simp [isGone] at notGone

/-- A call that has run for as long as it may can end in every way. -/
theorem exists_step_of_calling (place : Workplace) {job : Job} {lock : Nat} {attempt : Attempt}
    {since : Duration} (calling : worker.state = .calling job lock attempt since)
    (late : since + settings.applyTimeout ≤ clock) {action : WorkerAction}
    (ends : action.endsCall = true) :
    ∃ next nextPlace, Step settings clock id worker place action next nextPlace := by
  rcases worker with ⟨state, done⟩
  cases calling
  have goesOn {reply : Reply} {now : Instant}
      (callEnds : CallEnds settings clock since action reply now) :
      ∃ next nextPlace, Step settings clock id ⟨.calling job lock attempt since, done⟩ place action
        next nextPlace := by
    cases progress : job.plan.proceed attempt reply with
    | finished statuses => exact ⟨_, _, .finish callEnds progress⟩
    | calling another =>
        obtain ⟨rfl, refused, rfl⟩ := Plan.proceed_eq_calling progress
        exact ⟨_, _, .retry callEnds progress⟩
  cases action with
  | answer reply now => exact goesOn (.answered reply now)
  | expire now => exact goesOn (.expired now late)
  | breakDown => exact ⟨_, _, .breakDown⟩
  | _ => contradiction

end Worker

namespace Executor

variable {executor next : Executor}

/-- The executor after some time. -/
def after (executor : Executor) (time : Duration) : Executor :=
  { executor with clock := executor.clock + time }

theorem le_clock_after (executor : Executor) (time : Duration) :
    time ≤ (executor.after time).clock :=
  Nat.le_add_left time.nanos executor.clock.nanos

/-- Some work is possible after some time that the runtime allows. -/
def CanWork (executor : Executor) (runtime : Runtime) : Prop :=
  ∃ time action next, action.isWork = true ∧
    (executor.after time).Permits runtime.allows action ∧ Step (executor.after time) action next

/-- A worker is one of a pool at work. -/
private theorem exists_pool_of_worker? {id : WorkerId} {worker : Worker}
    (present : executor.worker? id = some worker) :
    ∃ execution pool, executor.executions[id.execution]? = some execution ∧
      execution.stage = .running pool ∧ pool.workers[id.number]? = some worker := by
  rcases Option.bind_eq_some_iff.mp present with ⟨pool, running, inPool⟩
  rcases Option.bind_eq_some_iff.mp running with ⟨execution, here, isPool⟩
  refine ⟨execution, pool, here, ?_, inPool⟩
  cases stage : execution.stage with
  | running other =>
      rw [stage] at isPool
      cases isPool
      rfl
  | _ =>
      rw [stage] at isPool
      contradiction

/-- A call can be ended in a way that the runtime allows. -/
private theorem canWork_of_calling (runtime : Runtime) {id : WorkerId} {worker : Worker}
    {job : Job} {lock : Nat} {attempt : Attempt} {since : Duration}
    (present : executor.worker? id = some worker)
    (calling : worker.state = .calling job lock attempt since) : executor.CanWork runtime := by
  obtain ⟨action, ends, allowed⟩ :=
    runtime.ends ⟨id, job.position, job.plan.requestOf attempt⟩
  obtain ⟨time, enough⟩ : ∃ time, time = since + executor.settings.applyTimeout := ⟨_, rfl⟩
  have late : since + executor.settings.applyTimeout ≤ (executor.after time).clock := by
    rw [← enough]
    exact executor.le_clock_after time
  have presentAfter : (executor.after time).worker? id = some worker := present
  obtain ⟨execution, pool, here, stage, inPool⟩ := exists_pool_of_worker? presentAfter
  obtain ⟨next, place, step⟩ := Worker.exists_step_of_calling
    ((executor.after time).workplace pool) calling late ends
  refine ⟨time, .work id action, _, rfl, ?_, .work here stage inPool step⟩
  intro call isCall
  rw [currentCall?, presentAfter, Option.bind_some, Worker.currentCall?, calling] at isCall
  cases isCall
  exact allowed

/-- A worker that makes no call can act without regard to the runtime. -/
private theorem canWork_of_idle (runtime : Runtime) {id : WorkerId} {worker : Worker}
    {action : WorkerAction} (present : executor.worker? id = some worker)
    (idle : worker.currentCall? id = none) (step : Step executor (.work id action) next) :
    executor.CanWork runtime := by
  have now : executor.after .zero = executor := rfl
  refine ⟨.zero, .work id action, next, rfl, ?_, step⟩
  intro call isCall
  rw [now, currentCall?, present, Option.bind_some, idle] at isCall
  contradiction

/-- Whoever holds a lock can go on. -/
private theorem canWork_of_isHeldBy (runtime : Runtime) {id : WorkerId} {claim : Claim}
    (claimed : executor.claim? id = some claim) (queued : claim.stage ≠ .lookedUp)
    (held : executor.locks.isHeldBy claim.lock id = true) : executor.CanWork runtime := by
  rcases Option.bind_eq_some_iff.mp claimed with ⟨worker, present, isClaim⟩
  rcases worker with ⟨state, done⟩
  cases state with
  | waiting job lock =>
      cases isClaim
      obtain ⟨execution, pool, here, stage, inPool⟩ := exists_pool_of_worker? present
      exact canWork_of_idle runtime present rfl (.work here stage inPool (.start held))
  | calling job lock attempt since => exact canWork_of_calling runtime present rfl
  | queueing job lock =>
      cases isClaim
      contradiction
  | _ => contradiction

/-- A worker that is not gone can act, or waits for another one that can. -/
private theorem canWork_of_worker (runtime : Runtime)
    (sound : executor.locks.Sound executor.claim?) {id : WorkerId} {worker : Worker}
    (present : executor.worker? id = some worker) (notGone : worker.isGone = false) :
    executor.CanWork runtime := by
  by_cases queued : ∃ claim, worker.claim? = some claim ∧ claim.stage ≠ .lookedUp
  · rcases queued with ⟨claim, isClaim, queued⟩
    have claimed : executor.claim? id = some claim := by
      rw [claim?, present, Option.bind_some, isClaim]
    obtain ⟨holder, held, heldClaimed, heldQueued, holds⟩ := sound.exists_holder claimed queued
    exact canWork_of_isHeldBy runtime heldClaimed heldQueued holds
  · have idle : worker.currentCall? id = none := by
      rcases worker with ⟨state, done⟩
      cases state with
      | calling job lock attempt since => exact absurd ⟨_, rfl, by simp⟩ queued
      | _ => rfl
    have lookedUp : ∀ claim, worker.claim? = some claim → claim.stage = .lookedUp := by
      intro claim isClaim
      apply Decidable.byContradiction
      intro other
      exact queued ⟨claim, isClaim, other⟩
    obtain ⟨execution, pool, here, stage, inPool⟩ := exists_pool_of_worker? present
    obtain ⟨action, next, place, step⟩ :=
      Worker.exists_step_of_unlocked (executor.workplace pool) notGone lookedUp
    exact canWork_of_idle runtime present idle (.work here stage inPool step)

/-- As long as an execution has not returned, something can be done. -/
theorem canWork_of_unreturned (runtime : Runtime) (sound : executor.locks.Sound executor.claim?)
    {number : Nat} {execution : Execution}
    (here : executor.executions[number]? = some execution)
    (unreturned : execution.stage ≠ .returned) : executor.CanWork runtime := by
  cases stage : execution.stage with
  | turn => exact ⟨.zero, .turn number, _, rfl, trivial, .turn here stage⟩
  | running pool =>
      by_cases isOver : pool.isOver = true
      · exact ⟨.zero, .join number default, _, rfl, trivial, .join here stage isOver⟩
      · have some_left : ∃ worker ∈ pool.workers, worker.isGone = false := by
          simpa [Pool.isOver] using isOver
        rcases some_left with ⟨worker, mem, notGone⟩
        rcases List.mem_iff_getElem?.mp mem with ⟨index, inPool⟩
        have present : executor.worker? ⟨number, index⟩ = some worker :=
          (worker?_of_running here stage).trans inPool
        exact canWork_of_worker runtime sound present notGone
  | pausing since =>
      obtain ⟨time, enough⟩ : ∃ time, time = since + executor.settings.batchDelay := ⟨_, rfl⟩
      have late : since + executor.settings.batchDelay ≤ (executor.after time).clock := by
        rw [← enough]
        exact executor.le_clock_after time
      exact ⟨time, .resume number, _, rfl, trivial, .resume here stage late⟩
  | closing => exact ⟨.zero, .close number, _, rfl, trivial, .close here stage⟩
  | returned => exact absurd stage unreturned

/-- All executions have returned. -/
def AllReturned (executor : Executor) : Prop :=
  ∀ execution ∈ executor.executions, execution.stage = .returned

/-- Whatever the runtime does, all executions can be brought to an end, and no others begin
thereby. -/
theorem exists_allReturned (runtime : Runtime)
    (sound : executor.locks.Sound executor.claim?) :
    ∃ actions last, executor.run? actions = some last ∧
      executor.Follows runtime.allows actions ∧ (actions.map Action.cost).sum = 0 ∧
      last.AllReturned := by
  -- The induction is on the load: what can be done takes from it.
  induction bound : executor.load using Nat.strongRecOn generalizing executor with
  | ind load ih =>
      by_cases finished : executor.AllReturned
      · exact ⟨[], executor, rfl, trivial, rfl, finished⟩
      · have some_left : ∃ execution ∈ executor.executions, execution.stage ≠ .returned := by
          simpa [AllReturned] using finished
        rcases some_left with ⟨execution, mem, unreturned⟩
        rcases List.mem_iff_getElem?.mp mem with ⟨number, here⟩
        obtain ⟨time, action, next, isWork, permitted, step⟩ :=
          canWork_of_unreturned runtime sound here unreturned
        have waits : Step executor (.elapse time) (executor.after time) := .elapse time
        have nextSound := step.lockStep.locks_sound (waits.lockStep.locks_sound sound)
        have noCost : action.cost = 0 := by
          cases action with
          | execute => contradiction
          | _ => rfl
        have less : next.load < load := by
          have taken := step.load_le
          rw [if_pos isWork, noCost] at taken
          rw [← bound]
          exact taken
        obtain ⟨rest, last, run, follows, free, allReturned⟩ := ih next.load less nextSound rfl
        refine ⟨.elapse time :: action :: rest, last, ?_, ?_, ?_, allReturned⟩
        · exact run?_cons_eq_some_iff.mpr ⟨_, waits, run?_cons_eq_some_iff.mpr ⟨_, step, run⟩⟩
        · refine ⟨trivial, ?_⟩
          rintro _ ⟨⟩
          refine ⟨permitted, ?_⟩
          intro other isNext
          have same : some next = some other := (step?_eq_some_iff.mpr step).symm.trans isNext
          cases same
          exact follows
        · rw [List.map_cons, List.map_cons, List.sum_cons, List.sum_cons, free, noCost]
          rfl

end Executor

end PodSizing
