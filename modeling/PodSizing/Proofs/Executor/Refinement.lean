import PodSizing.Proofs.Executor.Execute

/-!
# Plans applied together and alone

When the answer of the runtime to a call is a function of the request, an execution gives each plan
the statuses that it would have if it were applied alone, and makes the calls that would be made
then, in some order.  So neither the size of the batches nor the number of workers nor the order
in which they act shows in what an execution returns.
-/

namespace PodSizing

/-- The runtime that answers a request always in the same way, or never in time. -/
def Runtime.ofAnswers (answer : ResizeRequest → Option Reply) : Runtime where
  allows call action :=
    match action with
    | .answer reply _ => answer call.request = some reply
    | .expire _ => answer call.request = none
    | _ => False
  ends call := by
    cases answered : answer call.request with
    | some reply => exact ⟨.answer reply default, rfl, rfl⟩
    | none => exact ⟨.expire default, rfl, rfl⟩

instance (answer : ResizeRequest → Option Reply) :
    ∀ call action, Decidable ((Runtime.ofAnswers answer).allows call action)
  | call, .answer reply _ => inferInstanceAs (Decidable (answer call.request = some reply))
  | call, .expire _ => inferInstanceAs (Decidable (answer call.request = none))
  | _, .take | _, .lookUp _ | _, .enqueue | _, .start | _, .breakDown =>
      inferInstanceAs (Decidable False)

/-- How a call comes out for whoever makes it: with the answer of the runtime, or with a timeout. -/
def ExecutorSettings.replyOf (settings : ExecutorSettings)
    (answer : ResizeRequest → Option Reply) (request : ResizeRequest) : Reply :=
  (answer request).getD (.error (.timeout settings.applyTimeout))

namespace Plan

variable {dryRun : Bool} {reply : ResizeRequest → Reply} {plan : Plan} {attempt : Attempt}

/-- The statuses of a plan that is applied alone. -/
def statusesAlone (plan : Plan) (dryRun : Bool) (reply : ResizeRequest → Reply) : Statuses :=
  (plan.applyAlone dryRun reply).1

/-- The requests for a plan that is applied alone. -/
def requestsAlone (plan : Plan) (dryRun : Bool) (reply : ResizeRequest → Reply) :
    List ResizeRequest :=
  (plan.applyAlone dryRun reply).2

/-- The requests for a plan up to an attempt. -/
def requestsUpTo (plan : Plan) : Attempt → List ResizeRequest
  | .whole => [plan.requestOf .whole]
  | .reduced refused => [plan.requestOf .whole, plan.requestOf (.reduced refused)]

/-- The attempt is made when the plan is applied alone. -/
def Reaches (plan : Plan) (dryRun : Bool) (reply : ResizeRequest → Reply) : Attempt → Prop
  | .whole => plan.begin dryRun = .calling .whole
  | .reduced refused => plan.begin dryRun = .calling .whole ∧
      plan.proceed .whole (reply (plan.requestOf .whole)) = .calling (.reduced refused)

theorem applyAlone_of_begin {statuses : Statuses}
    (nothing : plan.begin dryRun = .finished statuses) :
    plan.applyAlone dryRun reply = (statuses, []) := by
  simp [applyAlone, nothing]

/-- A plan that is done after an attempt which is made alone is done alone. -/
theorem applyAlone_of_proceed {statuses : Statuses} (reaches : plan.Reaches dryRun reply attempt)
    (settled : plan.proceed attempt (reply (plan.requestOf attempt)) = .finished statuses) :
    plan.applyAlone dryRun reply = (statuses, plan.requestsUpTo attempt) := by
  cases attempt with
  | whole =>
      have begun : plan.begin dryRun = .calling .whole := reaches
      simp [applyAlone, begun, settled, requestsUpTo]
  | reduced refused =>
      rcases reaches with ⟨begun, again⟩
      simp [applyAlone, begun, again, settled, requestsUpTo]

end Plan

namespace Worker

/-- The attempt that a worker makes, or will make once it holds the lock of the pod. -/
def attempt? (worker : Worker) : Option (Job × Attempt) :=
  match worker.state with
  | .queueing job _ => some (job, .whole)
  | .waiting job _ => some (job, .whole)
  | .calling job _ attempt _ => some (job, attempt)
  | _ => none

/-- What a worker has done and does agrees with what would be done for its plans alone. -/
structure Agrees (dryRun : Bool) (reply : ResizeRequest → Reply) (worker : Worker) : Prop where
  done : ∀ entry ∈ worker.done, entry.2.statuses = entry.2.plan.statusesAlone dryRun reply
  reaches : ∀ job attempt, worker.attempt? = some (job, attempt) →
    job.plan.Reaches dryRun reply attempt
  notLost : worker.state ≠ .lost

/-- The requests that a worker has made. -/
def requests (dryRun : Bool) (reply : ResizeRequest → Reply) (worker : Worker) :
    List ResizeRequest :=
  worker.done.flatMap (fun entry => entry.2.plan.requestsAlone dryRun reply) ++
    match worker.state with
    | .calling job _ attempt _ => job.plan.requestsUpTo attempt
    | _ => []

theorem agrees_fresh (dryRun : Bool) (reply : ResizeRequest → Reply) :
    fresh.Agrees dryRun reply :=
  ⟨by simp [fresh], by simp [fresh, attempt?], by simp [fresh]⟩

variable {settings : ExecutorSettings} {clock : Duration} {id : WorkerId}
  {worker next : Worker} {place nextPlace : Workplace} {action : WorkerAction}
  {answer : ResizeRequest → Option Reply}

/-- A call ends with the answer to its request. -/
private theorem reply_of_ends {since : Duration} {reply : Reply} {now : Instant} {call : Call}
    (ends : CallEnds settings clock since action reply now)
    (allowed : (Runtime.ofAnswers answer).allows call action) :
    reply = settings.replyOf answer call.request := by
  cases ends with
  | answered =>
      have answered : answer call.request = some reply := allowed
      simp [ExecutorSettings.replyOf, answered]
  | expired =>
      have answered : answer call.request = none := allowed
      simp [ExecutorSettings.replyOf, answered]

private theorem not_allows_breakDown (call : Call) :
    ¬ (Runtime.ofAnswers answer).allows call .breakDown :=
  fun allowed => allowed

/-- A plan that is done joins the others that are. -/
private theorem agrees_done {dryRun : Bool} {reply : ResizeRequest → Reply}
    {done : List (Nat × Outcome)} {job : Job} {statuses : Statuses} (now : Instant)
    (agrees : ∀ entry ∈ done, entry.2.statuses = entry.2.plan.statusesAlone dryRun reply)
    (alone : job.plan.statusesAlone dryRun reply = statuses) :
    Agrees dryRun reply ⟨.free, done ++ [(job.position, ⟨job.plan, statuses, now⟩)]⟩ := by
  refine ⟨?_, by simp [attempt?], by simp⟩
  intro entry mem
  rcases List.mem_append.mp mem with earlier | last
  · exact agrees entry earlier
  · rw [List.mem_singleton.mp last]
    exact alone.symm

/-- A step agrees with what is done for plans alone, and the requests are those of its calls. -/
theorem Step.agrees {made : List Call}
    (step : Step settings clock id worker place action next nextPlace)
    (calls : nextPlace.calls = place.calls ++ made)
    (allowed : ∀ call, worker.currentCall? id = some call →
      (Runtime.ofAnswers answer).allows call action)
    (agrees : worker.Agrees settings.dryRun (settings.replyOf answer)) :
    next.Agrees settings.dryRun (settings.replyOf answer) ∧
      next.requests settings.dryRun (settings.replyOf answer) =
        worker.requests settings.dryRun (settings.replyOf answer) ++ made.map Call.request := by
  rcases agrees with ⟨done, reaches, notLost⟩
  cases step with
  | leave | take =>
      obtain rfl : made = [] := by simpa using calls
      exact ⟨⟨done, by simp [attempt?], by simp⟩, by simp [requests]⟩
  | @skip _ _ job statuses now nothing =>
      obtain rfl : made = [] := by simpa using calls
      have alone : job.plan.applyAlone settings.dryRun (settings.replyOf answer) = (statuses, []) :=
        Plan.applyAlone_of_begin nothing
      refine ⟨agrees_done now done (congrArg Prod.fst alone), ?_⟩
      simp [requests, Plan.requestsAlone, alone]
  | lookUp now something =>
      obtain rfl : made = [] := by simpa using calls
      refine ⟨⟨done, ?_, by simp⟩, by simp [requests]⟩
      rintro job attempt ⟨⟩
      exact something
  | enqueue =>
      obtain rfl : made = [] := by simpa using calls
      refine ⟨⟨done, ?_, by simp⟩, by simp [requests]⟩
      rintro job attempt ⟨⟩
      exact reaches _ _ rfl
  | start held =>
      obtain rfl := List.append_cancel_left calls
      refine ⟨⟨done, ?_, by simp⟩, by simp [requests, Plan.requestsUpTo]⟩
      rintro job attempt ⟨⟩
      exact reaches _ _ rfl
  | @finish _ _ job lock attempt since action reply now statuses ends settled =>
      obtain rfl : made = [] := by simpa [Workplace.withReply] using calls
      rw [reply_of_ends ends (allowed _ rfl)] at settled
      have alone := Plan.applyAlone_of_proceed (reaches _ _ rfl) settled
      refine ⟨agrees_done now done (congrArg Prod.fst alone), ?_⟩
      simp [requests, Plan.requestsAlone, alone]
  | @retry _ _ job lock since action reply now refused ends again =>
      obtain rfl := List.append_cancel_left calls
      rw [reply_of_ends ends (allowed _ rfl)] at again
      refine ⟨⟨done, ?_, by simp⟩, by simp [requests, Plan.requestsUpTo]⟩
      rintro _ _ ⟨⟩
      exact ⟨reaches _ .whole rfl, again⟩
  | breakDown => exact absurd (allowed _ rfl) (not_allows_breakDown _)

end Worker

namespace Pool

variable {dryRun : Bool} {reply : ResizeRequest → Reply} {concurrency : Nat} {pool : Pool}

/-- All workers of a pool agree with what would be done for their plans alone. -/
def Agrees (dryRun : Bool) (reply : ResizeRequest → Reply) (pool : Pool) : Prop :=
  ∀ worker ∈ pool.workers, worker.Agrees dryRun reply

/-- The requests that the workers of a pool have made. -/
def requests (dryRun : Bool) (reply : ResizeRequest → Reply) (pool : Pool) :
    List ResizeRequest :=
  pool.workers.flatMap (Worker.requests dryRun reply)

theorem agrees_ofBatch (batch : Batch) (concurrency : Nat) :
    (ofBatch batch concurrency).Agrees dryRun reply := by
  intro worker mem
  rcases List.mem_replicate.mp mem with ⟨-, rfl⟩
  exact Worker.agrees_fresh dryRun reply

theorem requests_ofBatch (batch : Batch) (concurrency : Nat) :
    (ofBatch batch concurrency).requests dryRun reply = [] := by
  rw [requests, List.flatMap_eq_nil_iff]
  intro worker mem
  rcases List.mem_replicate.mp mem with ⟨-, rfl⟩
  rfl

/-- When nothing was lost and all workers are gone, they have done the plans of the batch. -/
theorem Sound.perm_doneJobs (sound : pool.Sound concurrency) (agrees : pool.Agrees dryRun reply)
    (isOver : pool.isOver = true) : (doneJobs pool.workers).Perm pool.batch.jobs := by
  rcases sound with ⟨⟨lost, perm, lostWorker⟩, queue, size, -⟩
  have left : ∀ worker ∈ pool.workers, worker.state = .left := by
    intro worker mem
    have gone := List.all_eq_true.mp isOver worker mem
    have notLost := (agrees worker mem).notLost
    cases state : worker.state with
    | left => rfl
    | lost => exact absurd state notLost
    | _ => simp [Worker.isGone, state] at gone
  have noneLost : lost = [] := by
    apply Decidable.byContradiction
    intro some_lost
    obtain ⟨worker, mem, state⟩ := lostWorker some_lost
    exact (agrees worker mem).notLost state
  have taken : pool.workers.flatMap Worker.jobs = doneJobs pool.workers := by
    rw [doneJobs, List.map_flatMap, List.flatMap_def, List.flatMap_def]
    congr 1
    apply List.map_congr_left
    intro worker mem
    simp [Worker.jobs, Worker.job?, left worker mem]
  have noQueue : pool.queue = [] := by
    cases workers : pool.workers with
    | cons worker rest =>
        have mem : worker ∈ pool.workers := by simp [workers]
        exact queue worker mem (left worker mem)
    | nil =>
        -- Without workers there are no plans in the batch, so none can wait.
        have noJobs : pool.batch.jobs = [] := by
          rw [workers, List.length_nil] at size
          rw [← List.length_eq_zero_iff]
          omega
        rw [noJobs, List.perm_nil] at perm
        simp_all
  rw [taken, noQueue, noneLost, List.append_nil, List.append_nil] at perm
  exact perm

/-- The outcome of a plan is the one that it has alone. -/
theorem Sound.statuses_outcomeOf (sound : pool.Sound concurrency)
    (rising : pool.batch.jobs.Pairwise fun first second => first.position < second.position)
    (agrees : pool.Agrees dryRun reply) (isOver : pool.isOver = true) (now : Instant) {job : Job}
    (mem : job ∈ pool.batch.jobs) :
    (pool.outcomeOf now job).statuses = job.plan.statusesAlone dryRun reply := by
  have done : job ∈ doneJobs pool.workers := (sound.perm_doneJobs agrees isOver).mem_iff.mpr mem
  rcases List.mem_map.mp done with ⟨entry, left, rfl⟩
  rcases List.mem_flatMap.mp left with ⟨worker, isWorker, byWorker⟩
  have found : pool.reported.get? entry.1 = some entry.2 :=
    (sound.reported_eq_some_iff rising).mpr ⟨worker, isWorker, byWorker⟩
  simp only [outcomeOf, Worker.doneJob, found, Option.getD_some]
  exact (agrees worker isWorker).done entry byWorker

/-- The requests for a batch are those for its plans alone. -/
theorem Sound.perm_requests (sound : pool.Sound concurrency) (agrees : pool.Agrees dryRun reply)
    (isOver : pool.isOver = true) :
    (pool.requests dryRun reply).Perm
      (pool.batch.plans.flatMap fun plan => plan.requestsAlone dryRun reply) := by
  have ofDone : pool.requests dryRun reply =
      (doneJobs pool.workers).flatMap fun job => job.plan.requestsAlone dryRun reply := by
    rw [requests, doneJobs, List.flatMap_map, List.flatMap_assoc, List.flatMap_def,
      List.flatMap_def]
    congr 1
    apply List.map_congr_left
    intro worker mem
    have gone := List.all_eq_true.mp isOver worker mem
    cases state : worker.state with
    | left | lost => simp [Worker.requests, state, Worker.doneJob]
    | _ => simp [Worker.isGone, state] at gone
  have ofPlans : (pool.batch.plans.flatMap fun plan => plan.requestsAlone dryRun reply) =
      pool.batch.jobs.flatMap fun job => job.plan.requestsAlone dryRun reply := by
    rw [Batch.plans, List.flatMap_map]
  rw [ofDone, ofPlans]
  exact (sound.perm_doneJobs agrees isOver).flatMap_right _

end Pool

namespace Stage

/-- The requests that were made for the batch at work. -/
def requests (dryRun : Bool) (reply : ResizeRequest → Reply) (stage : Stage) :
    List ResizeRequest :=
  stage.pool?.elim [] (Pool.requests dryRun reply)

end Stage

namespace Execution

/-- The outcomes so far are those of the plans alone, nothing was put off, and the calls so far are
those for the plans alone and those for the batch at work. -/
structure Agrees (dryRun : Bool) (reply : ResizeRequest → Reply) (calls : List Call)
    (execution : Execution) : Prop where
  outcomes : ∀ outcome ∈ execution.outcomes,
    outcome.statuses = outcome.plan.statusesAlone dryRun reply
  pool : ∀ pool, execution.stage = .running pool → pool.Agrees dryRun reply
  calls : (calls.map Call.request).Perm
    (execution.outcomes.flatMap (fun outcome => outcome.plan.requestsAlone dryRun reply) ++
      execution.stage.requests dryRun reply)
  deferred : execution.deferred = []

variable {settings : ExecutorSettings} {answer : ResizeRequest → Option Reply} {number : Nat}
  {order : Order} {calls made : List Call} {execution next : Execution}
  {finished putOff : List Batch}

theorem agrees_execution (order : Order) (dryRun : Bool) (reply : ResizeRequest → Reply) :
    order.execution.Agrees dryRun reply [] :=
  ⟨by simp [Order.execution, ofPlans], by simp [Order.execution, ofPlans], List.Perm.refl _, rfl⟩

/-- The stage may change when no requests are at work before and after. -/
private theorem Agrees.withStage {dryRun : Bool} {reply : ResizeRequest → Reply}
    (agrees : execution.Agrees dryRun reply calls) (stage : Stage) (remaining : List Batch)
    (idle : execution.stage.requests dryRun reply = [])
    (idleAfter : stage.requests dryRun reply = [])
    (pool : ∀ pool, stage = .running pool → pool.Agrees dryRun reply) :
    Agrees dryRun reply calls { execution with stage, remaining } := by
  refine ⟨agrees.outcomes, pool, ?_, agrees.deferred⟩
  have same := agrees.calls
  rw [idle] at same
  rw [idleAfter]
  exact same

private theorem Agrees.work {pool : Pool} {worker after : Worker} {place afterPlace : Workplace}
    {clock : Duration} {index : Nat} {action : WorkerAction}
    (agrees : execution.Agrees settings.dryRun (settings.replyOf answer) calls)
    (stage : execution.stage = .running pool) (present : pool.workers[index]? = some worker)
    (step : Worker.Step settings clock ⟨number, index⟩ worker place action after afterPlace)
    (more : afterPlace.calls = place.calls ++ made)
    (ends : ∀ call, worker.currentCall? ⟨number, index⟩ = some call →
      (Runtime.ofAnswers answer).allows call action) :
    Agrees settings.dryRun (settings.replyOf answer) (calls ++ made)
      (execution.withPool (pool.withWorker index after afterPlace.queue)) := by
  have poolAgrees := agrees.pool pool stage
  obtain ⟨afterAgrees, requests⟩ :=
    step.agrees more ends (poolAgrees worker (List.mem_of_getElem? present))
  refine ⟨agrees.outcomes, ?_, ?_, agrees.deferred⟩
  · rintro _ ⟨⟩ other mem
    rcases List.mem_or_eq_of_mem_set mem with old | rfl
    · exact poolAgrees other old
    · exact afterAgrees
  · obtain ⟨earlier, later, split, replace⟩ := exists_append_of_getElem? present
    have counted := List.perm_iff_count.mp agrees.calls
    rw [List.perm_iff_count]
    intro request
    have before := counted request
    simp only [stage, Stage.requests, Stage.pool?, Option.elim_some, Pool.requests, split,
      List.flatMap_append, List.flatMap_cons, List.count_append] at before
    simp only [withPool, Pool.withWorker, Stage.requests, Stage.pool?, Option.elim_some,
      Pool.requests, replace, requests, List.map_append, List.flatMap_append, List.flatMap_cons,
      List.count_append]
    omega

private theorem Agrees.join {dryRun : Bool} {reply : ResizeRequest → Reply} {pool : Pool}
    {clock : Duration} (agrees : execution.Agrees dryRun reply calls)
    (sound : Sound order calls execution finished putOff) (now : Instant)
    (stage : execution.stage = .running pool) (isOver : pool.isOver = true) :
    Agrees dryRun reply calls (execution.leaveBatch settings clock pool now) := by
  have poolSound := sound.pool pool stage
  have poolAgrees := agrees.pool pool stage
  have rising := sound.rising stage
  have outcomesEq := poolSound.outcomes_eq rising now
  have plansEq : (pool.outcomes now).map Outcome.plan = pool.batch.plans := by
    rw [outcomesEq, List.map_map, Batch.plans]
    exact List.map_congr_left fun job mem => (poolSound.plan_outcomeOf rising now mem).1
  have noRequests :
      (execution.leaveBatch settings clock pool now).stage.requests dryRun reply = [] := by
    simp only [leaveBatch]
    split <;> rfl
  refine ⟨?_, ?_, ?_, agrees.deferred⟩
  · intro outcome mem
    rcases List.mem_append.mp mem with earlier | new
    · exact agrees.outcomes outcome earlier
    · rw [outcomesEq] at new
      rcases List.mem_map.mp new with ⟨job, inBatch, rfl⟩
      rw [(poolSound.plan_outcomeOf rising now inBatch).1]
      exact poolSound.statuses_outcomeOf rising poolAgrees isOver now inBatch
  · simp only [leaveBatch]
    split <;> simp
  · have ofBatch : (pool.outcomes now).flatMap (fun outcome =>
        outcome.plan.requestsAlone dryRun reply) =
          pool.batch.plans.flatMap fun plan => plan.requestsAlone dryRun reply := by
      rw [← plansEq, List.flatMap_map]
    have calls := agrees.calls
    rw [stage] at calls
    rw [noRequests, List.append_nil, leaveBatch, List.flatMap_append, ofBatch]
    exact calls.trans ((poolSound.perm_requests poolAgrees isOver).append_left _)

/-- Without a deadline, and with a runtime that answers a request always in the same way, every
step agrees with what is done for plans alone. -/
theorem Agrees.step (noDeadline : settings.cycleDeadline = none)
    (agrees : execution.Agrees settings.dryRun (settings.replyOf answer) calls)
    (sound : Sound order calls execution finished putOff)
    (step : Step settings (Runtime.ofAnswers answer).allows number execution made next) :
    next.Agrees settings.dryRun (settings.replyOf answer) (calls ++ made) := by
  have idle {stage : Stage} (noPool : stage.pool? = none) :
      stage.requests settings.dryRun (settings.replyOf answer) = [] := by
    rw [Stage.requests, noPool, Option.elim_none]
  cases step with
  | beginBatch stage remaining early =>
      rw [List.append_nil]
      refine agrees.withStage (.running _) _ (idle (by rw [stage]; rfl))
        (Pool.requests_ofBatch _ _) ?_
      rintro _ ⟨⟩
      exact Pool.agrees_ofBatch _ _
  | putOff stage remaining late =>
      rw [isLate, noDeadline] at late
      contradiction
  | runOut stage remaining =>
      rw [List.append_nil]
      exact agrees.withStage .closing _ (idle (by rw [stage]; rfl)) rfl (by simp)
  | work stage present step queue more ends => exact agrees.work stage present step more ends
  | join now stage isOver =>
      rw [List.append_nil]
      exact agrees.join sound now stage isOver
  | resume stage =>
      rw [List.append_nil]
      exact agrees.withStage .turn _ (idle (by rw [stage]; rfl)) rfl (by simp)
  | close stage =>
      rw [List.append_nil]
      exact agrees.withStage .returned _ (idle (by rw [stage]; rfl)) rfl (by simp)

theorem agrees_of_run (noDeadline : settings.cycleDeadline = none)
    (run : Run settings (Runtime.ofAnswers answer).allows number order.execution made next) :
    next.Agrees settings.dryRun (settings.replyOf answer) made := by
  have both : ∃ finished putOff, Sound order made next finished putOff ∧
      next.Agrees settings.dryRun (settings.replyOf answer) made := by
    induction run with
    | refl => exact ⟨[], [], sound_execution order, agrees_execution order _ _⟩
    | tail _ step ih =>
        rcases ih with ⟨finished, putOff, sound, agrees⟩
        obtain ⟨nextFinished, nextPutOff, nextSound, -⟩ := sound.step step
        exact ⟨nextFinished, nextPutOff, nextSound, agrees.step noDeadline sound step⟩
  rcases both with ⟨finished, putOff, -, agrees⟩
  exact agrees

end Execution

namespace Executor

variable {executor start : Executor} {settings : ExecutorSettings} {before after : List Action}
  {plans : List Plan} {batchSize concurrency : Nat} {answer : ResizeRequest → Option Reply}

/-- An execution of the plans has come so far with so many calls, on an executor that was used in
any way before and follows the runtime from then on. -/
inductive Executes (settings : ExecutorSettings) (runtime : Runtime) (plans : List Plan)
    (batchSize concurrency : Nat) : Execution → List Call → Prop
  | intro {before after : List Action} {start executor : Executor} {execution : Execution}
      (reached : (ofSettings settings).run? before = some start)
      (run : start.run? (.execute plans batchSize concurrency :: after) = some executor)
      (follows : start.Follows runtime.allows (.execute plans batchSize concurrency :: after))
      (here : executor.executions[start.executions.length]? = some execution) :
      Executes settings runtime plans batchSize concurrency execution
        (executor.callsOf start.executions.length)

/-- What an execution returns is what its plans have alone. -/
theorem Executes.agrees {execution : Execution} {calls : List Call}
    (executes : Executes settings (.ofAnswers answer) plans batchSize concurrency execution calls)
    (noDeadline : settings.cycleDeadline = none) (returned : execution.stage = .returned) :
    execution.deferred = [] ∧
      execution.verdicts = plans.map (fun plan =>
        (plan, (plan.applyAlone settings.dryRun (settings.replyOf answer)).1)) ∧
      (calls.map Call.request).Perm (plans.flatMap fun plan =>
        (plan.applyAlone settings.dryRun (settings.replyOf answer)).2) := by
  cases executes with
  | intro reached run follows here =>
      obtain ⟨same, there, ran⟩ := exists_run_of_execute reached run follows
      obtain rfl : execution = same := Option.some.inj (here.symm.trans there)
      obtain ⟨finished, putOff, sound, -⟩ := (Execution.sound_execution _).run ran
      have agrees := Execution.agrees_of_run noDeadline ran
      have complete := sound.plans_eq (by rw [returned]; rfl)
      rw [agrees.deferred, List.append_nil] at complete
      simp only at complete
      refine ⟨agrees.deferred, ?_, ?_⟩
      · rw [← complete, List.map_map, Execution.verdicts]
        apply List.map_congr_left
        intro outcome mem
        rw [agrees.outcomes outcome mem]
        rfl
      · have requests := agrees.calls
        rw [returned] at requests
        rw [← complete, List.flatMap_map]
        simpa [Stage.requests, Stage.pool?, Plan.requestsAlone] using requests

/-- An execution without a deadline, against a runtime that answers a request always in the same
way or never in time, returns after a bounded number of steps and gives each plan, in their order,
the statuses that it has alone; its requests are those for its plans alone, in some order.  Another
execution of the plans returns the same, whatever the batches, the number of workers, the pauses
and the order in which the workers act. -/
theorem execute_refines_applyAlone (noDeadline : settings.cycleDeadline = none)
    (reached : (ofSettings settings).run? before = some start)
    (run : start.run? (.execute plans batchSize concurrency :: after) = some executor)
    (follows : start.Follows (Runtime.ofAnswers answer).allows
      (.execute plans batchSize concurrency :: after)) :
    let number := start.executions.length
    let alone (plan : Plan) := plan.applyAlone settings.dryRun (settings.replyOf answer)
    (∃ execution, executor.executions[number]? = some execution ∧
      (execution.stage = .returned →
        execution.deferred = [] ∧
        execution.verdicts = plans.map (fun plan => (plan, (alone plan).1)) ∧
        ((executor.callsOf number).map Call.request).Perm
          (plans.flatMap fun plan => (alone plan).2) ∧
        (∀ otherSettings otherBatchSize otherConcurrency other otherCalls,
          Executes otherSettings (.ofAnswers answer) plans otherBatchSize otherConcurrency other
            otherCalls →
          other.stage = .returned → otherSettings.dryRun = settings.dryRun →
          otherSettings.applyTimeout = settings.applyTimeout →
          otherSettings.cycleDeadline = none → other.verdicts = execution.verdicts))) ∧
    (before ++ .execute plans batchSize concurrency :: after).countP Action.isWork ≤
      ((before ++ .execute plans batchSize concurrency :: after).map Action.cost).sum ∧
    (∃ later last, executor.run? later = some last ∧
      executor.Follows (Runtime.ofAnswers answer).allows later ∧
      (later.map Action.cost).sum = 0 ∧ last.AllReturned) := by
  have whole := run?_trans reached run
  refine ⟨?_, countP_isWork_le whole,
    exists_allReturned (.ofAnswers answer) (locks_sound_of_run? whole)⟩
  obtain ⟨execution, here, -⟩ := exists_run_of_execute reached run follows
  refine ⟨execution, here, ?_⟩
  intro returned
  have executes : Executes settings (.ofAnswers answer) plans batchSize concurrency execution
      (executor.callsOf start.executions.length) := .intro reached run follows here
  obtain ⟨deferred, verdicts, requests⟩ := executes.agrees noDeadline returned
  refine ⟨deferred, verdicts, requests, ?_⟩
  intro otherSettings otherBatchSize otherConcurrency other otherCalls otherExecutes otherReturned
    sameDryRun sameTimeout otherNoDeadline
  obtain ⟨-, otherVerdicts, -⟩ := otherExecutes.agrees otherNoDeadline otherReturned
  have sameReply : otherSettings.replyOf answer = settings.replyOf answer := by
    funext request
    rw [ExecutorSettings.replyOf, ExecutorSettings.replyOf, sameTimeout]
  rw [otherVerdicts, verdicts, sameDryRun, sameReply]

/-- Two plans for one pod, of which the first lowers the memory, and one for another. -/
def mixedPlans : List Plan :=
  [.ofTargets ⟨⟨"default", "web"⟩, "app"⟩ ⟨100, 2000⟩ ⟨200, 1000⟩,
    .ofTargets ⟨⟨"default", "web"⟩, "proxy"⟩ ⟨100, 1000⟩ ⟨100, 2000⟩,
    .ofTargets ⟨⟨"default", "db"⟩, "app"⟩ ⟨100, 1000⟩ ⟨100, 2000⟩]

/-- Nothing is lowered, and nothing is heard about one pod. -/
def answerRaises (request : ResizeRequest) : Option Reply :=
  if request.patches.any Patch.decrease then some (.error (.rejected [.memory] "refused"))
  else if request.container.pod.name = "db" then none
  else some (.ok ())

/-- The second worker waits while the first one makes both calls for its plan; the call for the
last plan is given up. -/
def waitedAndExpired : List Action :=
  [.turn 0, .work ⟨0, 0⟩ .take, .work ⟨0, 1⟩ .take, .work ⟨0, 0⟩ (.lookUp default),
    .work ⟨0, 1⟩ (.lookUp default), .work ⟨0, 0⟩ .enqueue, .work ⟨0, 1⟩ .enqueue,
    .work ⟨0, 0⟩ .start,
    .work ⟨0, 0⟩ (.answer (.error (.rejected [.memory] "refused")) default),
    .work ⟨0, 0⟩ (.answer (.ok ()) default), .work ⟨0, 1⟩ .start, .work ⟨0, 0⟩ .take,
    .work ⟨0, 1⟩ (.answer (.ok ()) default), .work ⟨0, 1⟩ .take, .join 0 default, .turn 0,
    .work ⟨0, 0⟩ .take, .work ⟨0, 0⟩ (.lookUp default), .work ⟨0, 0⟩ .enqueue,
    .work ⟨0, 0⟩ .start, .elapse (.ofSeconds 10), .work ⟨0, 0⟩ (.expire default),
    .work ⟨0, 0⟩ .take, .join 0 default, .turn 0, .close 0]

theorem execute_refines_applyAlone_waited_and_expired :
    ∃ executor execution,
      (ofSettings .default).run? (.execute mixedPlans 2 2 :: waitedAndExpired) = some executor ∧
      executor.executions[0]? = some execution ∧ execution.stage = .returned ∧
      execution.verdicts = mixedPlans.map (fun plan =>
        (plan, (plan.applyAlone false (ExecutorSettings.default.replyOf answerRaises)).1)) ∧
      execution.verdicts.map Prod.snd =
        [⟨.applied, .skipped .decreaseNotPermitted⟩, ⟨.skipped .noChange, .applied⟩,
          ⟨.skipped .noChange, .failed "apply timed out after 10s"⟩] ∧
      (executor.callsOf 0).length = 4 := by
  let start := ofSettings .default
  let actions := Action.execute mixedPlans 2 2 :: waitedAndExpired
  let executor := (start.run? actions).get (by decide +kernel)
  have run : start.run? actions = some executor := (Option.some_get _).symm
  have reached : start.run? [] = some start := rfl
  have follows : start.Follows (Runtime.ofAnswers answerRaises).allows actions := by
    decide +kernel
  let execution := executor.executions[0]?.get (by decide +kernel)
  have here : executor.executions[0]? = some execution := (Option.some_get _).symm
  have returned : execution.stage = .returned := by decide +kernel
  obtain ⟨⟨same, there, agrees⟩, -⟩ := execute_refines_applyAlone rfl reached run follows
  obtain rfl : same = execution := Option.some.inj (there.symm.trans here)
  obtain ⟨-, verdicts, -⟩ := agrees returned
  exact ⟨executor, execution, run, here, returned, verdicts, by decide +kernel,
    by decide +kernel⟩

end Executor

end PodSizing
