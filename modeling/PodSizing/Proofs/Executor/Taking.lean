import PodSizing.Proofs.Executor.Accounting

/-!
# Taking plans from the queue

In a run of an executor the workers of an execution take its plans one by one.  The plans are taken
in their order and none is taken twice; those of the batch at work are taken or still wait.
`Execution.Took` says so of a state and is preserved by every step.
-/

namespace PodSizing

/-- The plan that a worker takes from a queue. -/
def WorkerAction.taken? (queue : List Job) : WorkerAction → Option Job
  | .take => queue.head?
  | _ => none

/-- A worker takes the first of the plans that wait, or none. -/
theorem Worker.Step.queue_eq {settings : ExecutorSettings} {clock : Duration} {id : WorkerId}
    {worker next : Worker} {place nextPlace : Workplace} {action : WorkerAction}
    (step : Step settings clock id worker place action next nextPlace) :
    place.queue = (action.taken? place.queue).toList ++ nextPlace.queue := by
  cases step with
  | leave none_left => simp [WorkerAction.taken?, none_left]
  | take first => simp [WorkerAction.taken?, first]
  | skip | lookUp | enqueue | start | breakDown => rfl
  | finish ends | retry ends => cases ends <;> rfl

namespace Stage

/-- The plans of the batch at work that wait. -/
def queue (stage : Stage) : List Job := (stage.pool?.map Pool.queue).getD []

@[simp]
theorem queue_running (pool : Pool) : (running pool).queue = pool.queue := rfl

theorem queue_of_idle {stage : Stage} (idle : stage.pool? = none) : stage.queue = [] := by
  simp [queue, idle]

theorem batches_of_idle {stage : Stage} (idle : stage.pool? = none) : stage.batches = [] := by
  simp [batches, idle]

end Stage

namespace Execution

/-- Of the plans of an execution those before the batch at work were taken in their order, if at
all, and those of the batch at work were taken in their order or still wait. -/
def Took (plans : List Plan) (taken : List Job) (execution : Execution) : Prop :=
  ∃ earlier, taken ++ execution.stage.queue =
      earlier ++ execution.stage.batches.flatMap Batch.jobs ∧
    earlier.Sublist ((Batch.jobsOf plans).take execution.outcomes.length)

variable {plans : List Plan} {taken : List Job} {execution : Execution}

theorem took_iff_of_idle (idle : execution.stage.pool? = none) :
    execution.Took plans taken ↔
      taken.Sublist ((Batch.jobsOf plans).take execution.outcomes.length) := by
  rw [Took, Stage.queue_of_idle idle, Stage.batches_of_idle idle]
  simp

theorem took_execution (order : Order) : order.execution.Took order.plans [] := by
  rw [took_iff_of_idle rfl]
  exact List.nil_sublist _

/-- What was taken and what waits are plans of the execution in their order. -/
theorem Took.sublist {order : Order} {calls : List Call} {finished putOff : List Batch}
    (took : execution.Took order.plans taken)
    (sound : Sound order calls execution finished putOff) :
    (taken ++ execution.stage.queue).Sublist
      ((Batch.jobsOf order.plans).take
        (execution.outcomes.length + (execution.stage.batches.flatMap Batch.jobs).length)) := by
  obtain ⟨earlier, split, before⟩ := took
  rw [split, List.take_add]
  apply before.append
  cases stage : execution.stage with
  | turn | pausing | closing | returned => simp
  | running pool =>
      have cut := sound.batches_eq_append
      rw [stage] at cut
      have jobs := Batch.jobs_eq_of_partition_eq cut
      rw [← sound.outcomes, List.length_map] at jobs
      rw [Stage.batches_running, List.flatMap_singleton]
      exact jobs.subst (motive := pool.batch.jobs.Sublist) (List.Sublist.refl _)

private theorem Took.takeTurn (took : execution.Took plans taken) (stage : execution.stage = .turn)
    (settings : ExecutorSettings) (clock : Duration) :
    (execution.takeTurn settings clock).1.Took plans taken := by
  have before := (took_iff_of_idle (by rw [stage]; rfl)).mp took
  unfold Execution.takeTurn
  split
  · exact (took_iff_of_idle rfl).mpr before
  · split
    · exact (took_iff_of_idle rfl).mpr before
    · exact ⟨taken, by simp [Pool.ofBatch], before⟩

private theorem Took.work (took : execution.Took plans taken) {pool : Pool}
    (stage : execution.stage = .running pool) {settings : ExecutorSettings} {clock : Duration}
    {id : WorkerId} {worker next : Worker} {place nextPlace : Workplace} {action : WorkerAction}
    (step : Worker.Step settings clock id worker place action next nextPlace)
    (queue : place.queue = pool.queue) (index : Nat) :
    (execution.withPool (pool.withWorker index next nextPlace.queue)).Took plans
      (taken ++ (action.taken? pool.queue).toList) := by
  obtain ⟨earlier, split, before⟩ := took
  refine ⟨earlier, ?_, before⟩
  have first := step.queue_eq
  rw [queue] at first
  rw [stage, Stage.queue_running, Stage.batches_running, first, ← List.append_assoc] at split
  exact split

private theorem Took.leaveBatch {order : Order} {calls : List Call}
    {finished putOff : List Batch} (took : execution.Took order.plans taken)
    (sound : Sound order calls execution finished putOff) {pool : Pool}
    (stage : execution.stage = .running pool) (settings : ExecutorSettings) (clock : Duration)
    (now : Instant) : (execution.leaveBatch settings clock pool now).Took order.plans taken := by
  have idle : (execution.leaveBatch settings clock pool now).stage.pool? = none := by
    simp only [Execution.leaveBatch]
    split <;> rfl
  rw [took_iff_of_idle idle]
  have length : (execution.leaveBatch settings clock pool now).outcomes.length =
      execution.outcomes.length + (execution.stage.batches.flatMap Batch.jobs).length := by
    rw [Execution.leaveBatch, List.length_append,
      (sound.pool pool stage).outcomes_eq (sound.rising stage) now, stage]
    simp
  rw [length]
  exact (List.sublist_append_left _ _).trans (took.sublist sound)

end Execution

namespace Executor

/-- What an action takes from the queue of an execution, and for which worker. -/
def taken? (executor : Executor) (number : Nat) : Action → Option (WorkerId × Job)
  | .work id action =>
      if id.execution = number then
        (executor.pool? number).bind fun pool => (action.taken? pool.queue).map (id, ·)
      else none
  | _ => none

/-- What the workers of an execution take in a run. -/
def takings (number : Nat) : Executor → List Action → List (WorkerId × Job)
  | _, [] => []
  | executor, action :: rest =>
      match executor.step? action with
      | some next => (executor.taken? number action).toList ++ takings number next rest
      | none => []

variable {executor next last : Executor} {action : Action} {number : Nat}

theorem takings_cons {rest : List Action} (step : Step executor action next) :
    executor.takings number (action :: rest) =
      (executor.taken? number action).toList ++ next.takings number rest := by
  rw [takings, step?_eq_some_iff.mpr step]

theorem takings_append {first second : List Action} (run : executor.run? first = some last) :
    executor.takings number (first ++ second) =
      executor.takings number first ++ last.takings number second := by
  induction first generalizing executor with
  | nil =>
      cases run
      rfl
  | cons action rest ih =>
      obtain ⟨next, step, run⟩ := run?_cons_eq_some_iff.mp run
      rw [List.cons_append, takings_cons step, takings_cons step, ih run, List.append_assoc]

variable {order : Order} {calls : List Call} {execution : Execution}
  {finished putOff : List Batch} {taken : List Job}

/-- What is known of an execution that is replaced is known of all, the others being the same. -/
private theorem took_of_set {acting : Nat} {before after : Execution}
    (acts : executor.executions[acting]? = some before)
    (replaced : next.executions = executor.executions.set acting after)
    (here : executor.executions[number]? = some execution)
    (took : execution.Took order.plans taken) (nothing : executor.taken? number action = none)
    (steps : before = execution → after.Took order.plans taken) :
    ∃ last, next.executions[number]? = some last ∧
      last.Took order.plans (taken ++ ((executor.taken? number action).map Prod.snd).toList) := by
  rw [replaced, nothing, Option.map_none, Option.toList_none, List.append_nil]
  by_cases eq : acting = number
  · subst acting
    obtain ⟨bound, -⟩ := List.getElem?_eq_some_iff.mp here
    exact ⟨after, List.getElem?_set_self bound, steps (Option.some.inj (acts.symm.trans here))⟩
  · exact ⟨execution, (List.getElem?_set_ne eq).trans here, took⟩

/-- A step takes at most one plan of an execution, the next in order. -/
theorem Step.took (step : Step executor action next)
    (here : executor.executions[number]? = some execution)
    (sound : Execution.Sound order calls execution finished putOff)
    (took : execution.Took order.plans taken) :
    ∃ last, next.executions[number]? = some last ∧
      last.Took order.plans (taken ++ ((executor.taken? number action).map Prod.snd).toList) := by
  cases step with
  | elapse => exact ⟨execution, here, by simpa [taken?] using took⟩
  | execute =>
      obtain ⟨bound, -⟩ := List.getElem?_eq_some_iff.mp here
      exact ⟨execution, (List.getElem?_append_left bound).trans here, by simpa [taken?] using took⟩
  | turn acts stage =>
      refine took_of_set acts rfl here took rfl ?_
      rintro rfl
      exact took.takeTurn stage _ _
  | join acts stage isOver =>
      refine took_of_set acts rfl here took rfl ?_
      rintro rfl
      exact took.leaveBatch sound stage _ _ _
  | resume acts stage late =>
      refine took_of_set acts rfl here took rfl ?_
      rintro rfl
      rw [Execution.took_iff_of_idle (by rw [stage]; rfl)] at took
      exact (Execution.took_iff_of_idle rfl).mpr took
  | close acts stage =>
      refine took_of_set acts rfl here took rfl ?_
      rintro rfl
      rw [Execution.took_iff_of_idle (by rw [stage]; rfl)] at took
      exact (Execution.took_iff_of_idle rfl).mpr took
  | @work id action acting pool worker after place acts stage present step =>
      by_cases eq : id.execution = number
      · subst number
        obtain ⟨bound, -⟩ := List.getElem?_eq_some_iff.mp here
        obtain rfl : acting = execution := Option.some.inj (acts.symm.trans here)
        have same : ((executor.taken? id.execution (.work id action)).map Prod.snd).toList =
            (action.taken? pool.queue).toList := by
          simp [taken?, pool?, here, stage, Stage.pool?, Option.map_map, Function.comp_def]
        rw [same]
        exact ⟨_, List.getElem?_set_self bound, took.work stage step rfl id.number⟩
      · refine ⟨execution, (List.getElem?_set_ne eq).trans here, ?_⟩
        simpa [taken?, eq] using took

/-- A run takes plans of an execution in their order. -/
theorem run?_took {actions : List Action} (run : executor.run? actions = some last)
    (here : executor.executions[number]? = some execution)
    (sound : Execution.Sound order calls execution finished putOff)
    (took : execution.Took order.plans taken) :
    ∃ final, last.executions[number]? = some final ∧
      final.Took order.plans (taken ++ (executor.takings number actions).map Prod.snd) := by
  induction actions generalizing executor execution calls finished putOff taken with
  | nil =>
      cases run
      exact ⟨execution, here, by simpa [takings] using took⟩
  | cons action rest ih =>
      obtain ⟨next, step, run⟩ := run?_cons_eq_some_iff.mp run
      obtain ⟨middle, there, middleTook⟩ := step.took here sound took
      -- The invariant of the execution is carried along: it says which plans have outcomes.
      obtain ⟨made, same, sameThere, ran, -⟩ :=
        step.projects (follows_anyEnd executor [action]).1 here
      obtain rfl : same = middle := Option.some.inj (sameThere.symm.trans there)
      obtain ⟨_, _, middleSound, -⟩ := sound.run ran
      obtain ⟨final, atEnd, finalTook⟩ := ih run there middleSound middleTook
      refine ⟨final, atEnd, ?_⟩
      rw [takings_cons step, List.map_append, ← List.append_assoc]
      cases taking : executor.taken? number action <;> simpa [taking] using finalTook

end Executor

end PodSizing
