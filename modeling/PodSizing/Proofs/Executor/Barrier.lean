import PodSizing.Proofs.Executor.Execute
import PodSizing.Proofs.Executor.Taking

/-!
# One batch after the other

A batch begins when every plan of the batches before it has an outcome.  While it is at work, not
more calls are in flight than there may be workers, and each of its plans is taken once; a plan is
left in the queue only when all workers break down.
-/

namespace PodSizing

namespace Execution

/-- The outcomes of an execution are never taken back. -/
theorem Run.outcomes_prefix {settings : ExecutorSettings} {allowed : Call → WorkerAction → Prop}
    {number : Nat} {first last : Execution} {made : List Call}
    (run : Run settings allowed number first made last) : first.outcomes <+: last.outcomes := by
  induction run with
  | refl => exact List.prefix_refl _
  | tail _ step ih =>
      refine ih.trans ?_
      cases step with
      | join => exact List.prefix_append _ _
      | beginBatch | putOff | runOut | work | resume | close => exact List.prefix_refl _

end Execution

/-- A worker waits for the call that it has made. -/
theorem Worker.Step.currentCall?_of_made {settings : ExecutorSettings} {clock : Duration}
    {id : WorkerId} {worker next : Worker} {place nextPlace : Workplace} {action : WorkerAction}
    {made : List Call} (step : Step settings clock id worker place action next nextPlace)
    (calls : nextPlace.calls = place.calls ++ made) :
    ∀ call ∈ made, next.currentCall? id = some call := by
  cases step with
  | start held =>
      obtain rfl := List.append_cancel_left calls
      intro call mem
      rw [List.mem_singleton.mp mem]
      rfl
  | retry ends again =>
      obtain rfl := List.append_cancel_left calls
      intro call mem
      rw [List.mem_singleton.mp mem]
      rfl
  | _ =>
      obtain rfl : made = [] := by simpa [Workplace.withReply] using calls
      simp

namespace Pool

/-- The calls of an execution that its workers wait for. -/
def inFlight (pool : Pool) (number : Nat) : List Call :=
  pool.workers.zipIdx.filterMap fun (worker, index) => worker.currentCall? ⟨number, index⟩

theorem length_inFlight_le {pool : Pool} {concurrency : Nat} (sound : pool.Sound concurrency)
    (number : Nat) : (pool.inFlight number).length ≤ max concurrency 1 := by
  calc (pool.inFlight number).length ≤ pool.workers.zipIdx.length := List.length_filterMap_le _ _
    _ = min (max concurrency 1) pool.batch.jobs.length := by rw [List.length_zipIdx, sound.size]
    _ ≤ max concurrency 1 := Nat.min_le_left _ _

/-- There is a worker for a batch with plans. -/
theorem Sound.workers_ne_nil {pool : Pool} {concurrency : Nat} (sound : pool.Sound concurrency)
    (someJob : pool.batch.jobs ≠ []) : pool.workers ≠ [] := by
  have jobs := List.length_pos_iff.mpr someJob
  have size := sound.size
  apply List.ne_nil_of_length_pos
  omega

end Pool

namespace Executor

variable {executor next start : Executor} {action : Action} {settings : ExecutorSettings}
  {before after : List Action} {plans : List Plan} {batchSize concurrency : Nat}

/-- The calls in flight for an execution. -/
def inFlight (executor : Executor) (number : Nat) : List Call :=
  ((executor.pool? number).map fun pool => pool.inFlight number).getD []

/-- A call is in flight when a worker waits for it. -/
theorem mem_inFlight {number : Nat} {call : Call} :
    call ∈ executor.inFlight number ↔
      ∃ index, executor.currentCall? ⟨number, index⟩ = some call := by
  cases pool : executor.pool? number with
  | none => simp [inFlight, currentCall?, worker?, pool]
  | some pool =>
      simp only [inFlight, currentCall?, worker?, pool, Option.map_some, Option.getD_some,
        Pool.inFlight, List.mem_filterMap, Option.bind_some]
      constructor
      · rintro ⟨⟨worker, index⟩, mem, current⟩
        exact ⟨index, by simp [List.mem_zipIdx_iff_getElem?.mp mem, current]⟩
      · rintro ⟨index, current⟩
        obtain ⟨worker, here, waits⟩ := Option.bind_eq_some_iff.mp current
        exact ⟨(worker, index), List.mem_zipIdx_iff_getElem?.mpr here, waits⟩

/-- What is known of an execution and of what its workers have taken. -/
theorem exists_took_of_execute (reached : (ofSettings settings).run? before = some start)
    (run : start.run? (.execute plans batchSize concurrency :: after) = some executor) :
    let number := start.executions.length
    ∃ execution finished putOff, executor.executions[number]? = some execution ∧
      Execution.Sound ⟨start.clock, plans, batchSize, concurrency⟩ (executor.callsOf number)
        execution finished putOff ∧
      execution.Took plans
        ((start.takings number (.execute plans batchSize concurrency :: after)).map Prod.snd) := by
  intro number
  obtain ⟨execution, finished, putOff, here, sound⟩ := exists_sound_of_execute reached run
  refine ⟨execution, finished, putOff, here, sound, ?_⟩
  obtain ⟨begun, step, run⟩ := run?_cons_eq_some_iff.mp run
  rw [takings_cons step]
  cases step with
  | execute =>
      let order : Order := ⟨start.clock, plans, batchSize, concurrency⟩
      have there : (start.executions ++ [order.execution])[number]? = some order.execution := by
        simp [number]
      obtain ⟨same, sameHere, took⟩ :=
        run?_took run there (Execution.sound_execution order) (Execution.took_execution order)
      obtain rfl : same = execution := Option.some.inj (sameHere.symm.trans here)
      exact took

/-- A call is made for the batch at work, and is in flight from then on. -/
private theorem exists_batch_of_made {number : Nat} {execution : Execution} {order : Order}
    {calls made : List Call} {finished putOff : List Batch}
    (sound : Execution.Sound order calls execution finished putOff)
    (here : executor.executions[number]? = some execution) (step : Step executor action next)
    (more : next.calls = executor.calls ++ made) {call : Call} (mem : call ∈ made)
    (own : call.worker.execution = number) :
    call ∈ next.inFlight number ∧ ∃ pool, execution.stage = .running pool ∧
      ∃ job ∈ pool.batch.jobs, job.position = call.position ∧
        ∃ attempt, call.request = job.plan.requestOf attempt := by
  cases step with
  | @work id action acting pool worker after place acts stage present step =>
      obtain ⟨others, callsEq, names⟩ := step.exists_calls
      obtain rfl : others = made := List.append_cancel_left (callsEq.symm.trans more)
      rw [names call mem] at own
      subst own
      obtain rfl : acting = execution := Option.some.inj (acts.symm.trans here)
      constructor
      · obtain ⟨bound, -⟩ := List.getElem?_eq_some_iff.mp acts
        obtain ⟨inPool, -⟩ := List.getElem?_eq_some_iff.mp present
        rw [mem_inFlight]
        refine ⟨id.number, ?_⟩
        rw [currentCall?, worker?_of_running (List.getElem?_set_self bound) rfl]
        rw [Pool.withWorker, List.getElem?_set_self inPool]
        exact step.currentCall?_of_made more call mem
      · obtain ⟨job, taken, isFor⟩ := step.job_of_calls more call mem
        exact ⟨pool, stage, job,
          (sound.pool pool stage).mem_jobs (List.mem_of_getElem? present) taken, isFor⟩
  | elapse | execute | turn | join | resume | close =>
      obtain rfl : made = [] := by simpa [update] using more
      contradiction

/-- The plans are taken in their order. -/
private theorem sublist_of_took {order : Order} {calls : List Call} {execution : Execution}
    {finished putOff : List Batch} {taken : List Job}
    (sound : Execution.Sound order calls execution finished putOff)
    (took : execution.Took order.plans taken) : taken.Sublist (Batch.jobsOf order.plans) :=
  ((List.sublist_append_left _ _).trans (took.sublist sound)).trans (List.take_sublist _ _)

/-- No plan is taken twice from a queue. -/
private theorem countP_taken_le_one {takings : List (WorkerId × Job)}
    (inOrder : (takings.map Prod.snd).Sublist (Batch.jobsOf plans)) (job : Job) :
    takings.countP (fun taking => taking.2 = job) ≤ 1 := by
  have once := List.nodup_iff_count.mp ((Batch.nodup_jobsOf plans).sublist inOrder) job
  rw [List.count, List.countP_map] at once
  exact once

/-- When the workers at a batch are gone and one of them did not break down, each of its plans was
taken, and only once, whatever is taken later. -/
private theorem countP_taken_eq_one {order : Order} {calls : List Call} {execution : Execution}
    {finished putOff : List Batch} {takings more : List (WorkerId × Job)} {pool : Pool}
    (sound : Execution.Sound order calls execution finished putOff)
    (took : execution.Took order.plans (takings.map Prod.snd))
    (stage : execution.stage = .running pool) (isOver : pool.isOver = true)
    (survived : ∃ worker ∈ pool.workers, worker.state ≠ .lost)
    (inOrder : ((takings ++ more).map Prod.snd).Sublist (Batch.jobsOf order.plans)) {job : Job}
    (inBatch : job ∈ pool.batch.jobs) :
    (takings ++ more).countP (fun taking => taking.2 = job) = 1 := by
  apply Nat.le_antisymm (countP_taken_le_one inOrder job)
  -- Nothing waits any more, so that the plans of the batch are the last that were taken.
  obtain ⟨earlier, split, -⟩ := took
  rw [stage, Stage.queue_running, (sound.pool pool stage).queue_of_isOver isOver survived,
    List.append_nil, Stage.batches_running, List.flatMap_singleton] at split
  have inTaken := List.mem_append_right earlier inBatch
  rw [← split] at inTaken
  obtain ⟨taking, mem, same⟩ := List.mem_map.mp inTaken
  apply List.countP_pos_iff.mpr
  exact ⟨taking, List.mem_append_left more mem, decide_eq_true same⟩

/-- A call is made only for a plan of the batch at work, when all plans of the batches before have
their outcomes, which they keep.  Never are more calls in flight than there may be workers.  The
plans are taken from the queues in their order and none is taken twice; when the workers at a batch
are gone and one of them did not break down, each of its plans was taken once. -/
theorem batches_in_turn (reached : (ofSettings settings).run? before = some start)
    (run : start.run? (.execute plans batchSize concurrency :: after) = some executor) :
    let number := start.executions.length
    let takings := start.takings number (.execute plans batchSize concurrency :: after)
    ∃ execution, executor.executions[number]? = some execution ∧
      (∀ action next made call, executor.step? action = some next →
        next.calls = executor.calls ++ made → call ∈ made → call.worker.execution = number →
        call ∈ next.inFlight number ∧
        ∃ done batch rest job attempt,
          Batch.partition plans batchSize = done ++ batch :: rest ∧
          execution.outcomes.map Outcome.plan = done.flatMap Batch.plans ∧
          job ∈ batch.jobs ∧ job.position = call.position ∧
          call.request = job.plan.requestOf attempt) ∧
      (∀ later last, executor.run? later = some last →
        ∃ final, last.executions[number]? = some final ∧ execution.outcomes <+: final.outcomes) ∧
      (executor.inFlight number).length ≤ max concurrency 1 ∧
      (takings.map Prod.snd).Sublist (Batch.jobsOf plans) ∧
      (∀ job, takings.countP (fun taking => taking.2 = job) ≤ 1) ∧
      (∀ pool, execution.stage = .running pool →
        pool.workers ≠ [] ∧
        (pool.isOver = true → (∃ worker ∈ pool.workers, worker.state ≠ .lost) →
          ∀ later last, executor.run? later = some last → ∀ job ∈ pool.batch.jobs,
            (takings ++ executor.takings number later).countP (fun taking => taking.2 = job) =
              1)) := by
  intro number takings
  obtain ⟨execution, finished, putOff, here, sound, took⟩ := exists_took_of_execute reached run
  have inOrder := sublist_of_took sound took
  refine ⟨execution, here, ?_, ?_, ?_, inOrder, countP_taken_le_one inOrder, ?_⟩
  · intro action next made call step more mem own
    obtain ⟨flies, pool, stage, job, inBatch, position, attempt, request⟩ :=
      exists_batch_of_made sound here (step?_eq_some_iff.mp step) more mem own
    have cut := sound.batches_eq_append
    rw [stage, Stage.batches_running, List.append_assoc, List.singleton_append] at cut
    exact ⟨flies, finished, pool.batch, _, job, attempt, cut, sound.outcomes, inBatch, position,
      request⟩
  · intro later last continued
    obtain ⟨made, final, there, ran, -⟩ := run?_projects continued (follows_anyEnd _ _) here
    exact ⟨final, there, ran.outcomes_prefix⟩
  · rw [inFlight, pool?, here, Option.bind_some]
    cases stage : execution.stage with
    | running pool => exact Pool.length_inFlight_le (sound.pool pool stage) number
    | turn | pausing | closing | returned => exact Nat.zero_le _
  · intro pool stage
    have someJob := Batch.jobs_ne_nil_of_mem_partition (sound.mem_batches stage)
    refine ⟨(sound.pool pool stage).workers_ne_nil someJob, ?_⟩
    intro isOver survived later last continued job inBatch
    obtain ⟨final, _, _, -, finalSound, finalTook⟩ :=
      exists_took_of_execute reached (run?_trans run continued)
    rw [← List.cons_append, takings_append run] at finalTook
    exact countP_taken_eq_one sound took stage isOver survived
      (sublist_of_took finalSound finalTook) inBatch

/-- Two workers share the first batch.  The first one breaks down, and the second one goes on. -/
def oneOfTwoBroken : List Action :=
  [.turn 0, .work ⟨0, 0⟩ .take, .work ⟨0, 0⟩ (.lookUp default), .work ⟨0, 0⟩ .enqueue,
    .work ⟨0, 0⟩ .start, .work ⟨0, 0⟩ .breakDown, .work ⟨0, 1⟩ .take,
    .work ⟨0, 1⟩ (.lookUp default), .work ⟨0, 1⟩ .enqueue, .work ⟨0, 1⟩ .start,
    .work ⟨0, 1⟩ (.answer (.ok ()) default), .work ⟨0, 1⟩ .take]

theorem batches_in_turn_one_of_two_broken :
    ∃ executor execution pool,
      (ofSettings .default).run? (.execute threePlans 2 2 :: oneOfTwoBroken) = some executor ∧
      executor.executions[0]? = some execution ∧ execution.stage = .running pool ∧
      pool.isOver = true ∧ (executor.inFlight 0).length ≤ 2 ∧
      ∀ job ∈ pool.batch.jobs,
        ((ofSettings .default).takings 0 (.execute threePlans 2 2 :: oneOfTwoBroken)).countP
          (fun taking => taking.2 = job) = 1 := by
  let start := ofSettings .default
  let actions := Action.execute threePlans 2 2 :: oneOfTwoBroken
  let executor := (start.run? actions).get (by decide +kernel)
  have run : start.run? actions = some executor := (Option.some_get _).symm
  have reached : start.run? [] = some start := rfl
  let execution := executor.executions[0]?.get (by decide +kernel)
  have here : executor.executions[0]? = some execution := (Option.some_get _).symm
  let pool := execution.stage.pool?.get (by decide +kernel)
  have stage : execution.stage = .running pool := by decide +kernel
  have isOver : pool.isOver = true := by decide +kernel
  have survived : ∃ worker ∈ pool.workers, worker.state ≠ .lost := by decide +kernel
  obtain ⟨same, there, -, -, bound, -, -, taken⟩ := batches_in_turn reached run
  obtain rfl : same = execution := Option.some.inj (there.symm.trans here)
  refine ⟨executor, execution, pool, run, here, stage, isOver, bound, ?_⟩
  intro job mem
  have once := (taken pool stage).2 isOver survived [] executor rfl job mem
  rwa [takings, List.append_nil] at once

end Executor

end PodSizing
