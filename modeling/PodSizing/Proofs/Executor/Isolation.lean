import PodSizing.Proofs.Executor.Execute
import PodSizing.Proofs.Executor.Ledger

/-!
# How far a breakdown reaches

A worker hands over what it has done only when it leaves.  When it breaks down during a call, the
outcomes of the plans that it did before are lost too, and when all workers at a batch break down,
the plans that still wait are never tried; all of them are reported as failed.  Every other plan
has the outcome that the replies to its own calls determine.  `Execution.Tells` says so of an
execution and its ledger and is preserved by every step.
-/

namespace PodSizing

namespace Execution

/-- The plan of a batch at work comes after those with an outcome. -/
theorem Sound.position_of_batch {order : Order} {calls : List Call} {execution : Execution}
    {finished putOff : List Batch} (sound : Sound order calls execution finished putOff)
    {pool : Pool} (stage : execution.stage = .running pool) {place : Nat} {job : Job}
    (here : pool.batch.jobs[place]? = some job) :
    job.position = execution.outcomes.length + place := by
  have cut := sound.batches_eq_append
  rw [stage, Stage.batches_running, List.append_assoc, List.singleton_append] at cut
  rw [Batch.position_of_getElem? cut here, ← sound.outcomes, List.length_map]

theorem Sound.position_bounds {order : Order} {calls : List Call} {execution : Execution}
    {finished putOff : List Batch} (sound : Sound order calls execution finished putOff)
    {pool : Pool} (stage : execution.stage = .running pool) {job : Job}
    (mem : job ∈ pool.batch.jobs) :
    execution.outcomes.length ≤ job.position ∧
      job.position < execution.outcomes.length + pool.batch.jobs.length := by
  obtain ⟨place, here⟩ := List.mem_iff_getElem?.mp mem
  obtain ⟨bound, -⟩ := List.getElem?_eq_some_iff.mp here
  have position := sound.position_of_batch stage here
  omega

/-- The number of plans that have an outcome or are at work. -/
def reach (execution : Execution) : Nat :=
  execution.outcomes.length + (execution.stage.batches.flatMap Batch.jobs).length

/-- The ledger of an execution is orderly and goes as far as the execution; it tells of the workers
at a batch; and each plan with an outcome has its fate. -/
structure Tells (order : Order) (dryRun : Bool) (ledger : Ledger) (execution : Execution) :
    Prop where
  orderly : ledger.Orderly
  known : ∀ entry ∈ ledger, entry.job.position < execution.reach ∧
    ∃ batch ∈ order.batches, batch.index = entry.worker.batch ∧ entry.job ∈ batch.jobs
  pool : ∀ pool, execution.stage = .running pool → pool.Tells dryRun ledger
  fates : ∀ (position : Nat) (outcome : Outcome), execution.outcomes[position]? = some outcome →
    ∃ batch ∈ order.batches, ⟨position, outcome.plan⟩ ∈ batch.jobs ∧
      ledger.Fate dryRun order.concurrency batch ⟨position, outcome.plan⟩ outcome.statuses

theorem tells_execution (order : Order) (dryRun : Bool) :
    order.execution.Tells order dryRun [] where
  orderly := Ledger.orderly_nil
  known := by simp
  pool := by simp [Order.execution, ofPlans]
  fates := by simp [Order.execution, ofPlans]

variable {order : Order} {calls : List Call} {execution next : Execution}
  {finished putOff : List Batch} {dryRun : Bool} {ledger : Ledger}

/-- The stage may change to another one without a batch at work. -/
private theorem Tells.withStage (tells : execution.Tells order dryRun ledger)
    (idle : execution.stage.batches = []) (outcomes : next.outcomes = execution.outcomes)
    (noPool : next.stage.pool? = none) : next.Tells order dryRun ledger := by
  have reach : next.reach = execution.reach := by
    rw [Execution.reach, Execution.reach, outcomes, idle, Stage.batches_of_idle noPool]
  refine ⟨tells.orderly, by rw [reach]; exact tells.known, ?_, by rw [outcomes]; exact tells.fates⟩
  intro pool stage
  rw [stage] at noPool
  contradiction

/-- A batch begins with workers and plans that are not in the ledger. -/
private theorem Tells.beginBatch (tells : execution.Tells order dryRun ledger)
    (idle : execution.stage.batches = []) (outcomes : next.outcomes = execution.outcomes)
    {batch : Batch} (concurrency : Nat) (stage : next.stage = .running (.ofBatch batch concurrency))
    (sound : Sound order calls next finished putOff) : next.Tells order dryRun ledger := by
  have later {job : Job} (mem : job ∈ batch.jobs) : execution.reach ≤ job.position := by
    rw [Execution.reach, idle, ← outcomes]
    exact (sound.position_bounds stage mem).1
  refine ⟨tells.orderly, ?_, ?_, by rw [outcomes]; exact tells.fates⟩
  · intro entry mem
    obtain ⟨within, isOf⟩ := tells.known entry mem
    refine ⟨Nat.lt_of_lt_of_le within ?_, isOf⟩
    rw [Execution.reach, Execution.reach, idle, outcomes]
    exact Nat.le_add_right _ _
  · intro pool same
    obtain rfl := Stage.running.inj (stage.symm.trans same)
    apply Pool.tells_ofBatch
    · intro entry noted inBatch
      exact Nat.not_lt_of_le (later inBatch) (tells.known entry noted).1
    · intro entry noted same
      obtain ⟨within, other, isBatch, index, inOther⟩ := tells.known entry noted
      obtain rfl : other = batch :=
        Batch.eq_of_index_eq isBatch (sound.mem_batches stage) (index.trans same)
      exact Nat.not_lt_of_le (later inOther) within

private theorem Tells.takeTurn (tells : execution.Tells order dryRun ledger)
    (sound : Sound order calls execution finished putOff) (stage : execution.stage = .turn)
    (settings : ExecutorSettings) (clock : Duration) :
    (execution.takeTurn settings clock).1.Tells order dryRun ledger := by
  have idle : execution.stage.batches = [] := by rw [stage]; rfl
  have turn : Step settings Executor.anyEnd 0 execution [] (execution.takeTurn settings clock).1 :=
    .of_takeTurn clock stage
  obtain ⟨_, _, nextSound, -⟩ := sound.step turn
  generalize taken : (execution.takeTurn settings clock).1 = next at *
  unfold Execution.takeTurn at taken
  split at taken
  · subst taken
    exact tells.withStage idle rfl rfl
  · split at taken
    · subst taken
      exact tells.withStage idle rfl rfl
    · subst taken
      exact tells.beginBatch idle rfl _ rfl nextSound

private theorem Tells.work {settings : ExecutorSettings}
    (tells : execution.Tells order settings.dryRun ledger)
    (sound : Sound order calls execution finished putOff) {pool : Pool}
    (stage : execution.stage = .running pool) {clock : Duration} {id : WorkerId}
    {number : Nat} {worker after : Worker} {place afterPlace : Workplace} {action : WorkerAction}
    (present : pool.workers[number]? = some worker)
    (step : Worker.Step settings clock id worker place action after afterPlace)
    (queue : place.queue = pool.queue) :
    (execution.withPool (pool.withWorker number after afterPlace.queue)).Tells order settings.dryRun
      (ledger ++ worker.entries settings ⟨pool.batch.index, number⟩ pool.queue action) := by
  have poolTells := tells.pool pool stage
  have poolSound := sound.pool pool stage
  have workerTells := poolTells.workers number worker present
  have notes := step.notes ⟨pool.batch.index, number⟩
  rw [queue] at notes
  have orderly := notes.orderly tells.orderly workerTells poolTells.waiting
  have nextPool := poolTells.withWorker tells.orderly poolSound (sound.rising stage) present step
    queue
  generalize worker.entries settings ⟨pool.batch.index, number⟩ pool.queue action = entries at *
  have here {entry : Entry} (noted : entry ∈ entries) :=
    poolSound.mem_jobs_of_noted present notes noted
  refine ⟨orderly, ?_, ?_, ?_⟩
  · intro entry mem
    have reach : (execution.withPool (pool.withWorker number after afterPlace.queue)).reach =
        execution.reach := by
      simp [Execution.reach, withPool, Pool.withWorker, stage]
    rw [reach]
    rcases List.mem_append.mp mem with old | new
    · exact tells.known entry old
    · obtain ⟨index, inBatch⟩ := here new
      refine ⟨?_, pool.batch, sound.mem_batches stage, index.symm, inBatch⟩
      simpa [Execution.reach, stage] using (sound.position_bounds stage inBatch).2
  · rintro _ ⟨⟩
    exact nextPool
  · intro position outcome atPosition
    obtain ⟨bound, -⟩ := List.getElem?_eq_some_iff.mp atPosition
    obtain ⟨batch, isBatch, inBatch, fate⟩ := tells.fates position outcome atPosition
    refine ⟨batch, isBatch, inBatch, fate.append ?_ ?_⟩
    · intro entry noted same
      obtain rfl : pool.batch = batch :=
        Batch.eq_of_index_eq (sound.mem_batches stage) isBatch ((here noted).1.symm.trans same)
      exact Nat.not_lt_of_le (sound.position_bounds stage inBatch).1 bound
    · intro entry noted same
      have later := (sound.position_bounds stage (here noted).2).1
      rw [same] at later
      exact Nat.not_lt_of_le later bound

private theorem Tells.leaveBatch (tells : execution.Tells order dryRun ledger)
    (sound : Sound order calls execution finished putOff) {pool : Pool}
    (stage : execution.stage = .running pool) (isOver : pool.isOver = true)
    (settings : ExecutorSettings) (clock : Duration) (now : Instant) :
    (execution.leaveBatch settings clock pool now).Tells order dryRun ledger := by
  have poolSound := sound.pool pool stage
  have rising := sound.rising stage
  have outcomes := poolSound.outcomes_eq rising now
  have idle : (execution.leaveBatch settings clock pool now).stage.pool? = none := by
    simp only [Execution.leaveBatch]
    split <;> rfl
  refine ⟨tells.orderly, ?_, ?_, ?_⟩
  · have reach : (execution.leaveBatch settings clock pool now).reach = execution.reach := by
      rw [Execution.reach, Execution.reach, Stage.batches_of_idle idle, stage]
      simp [Execution.leaveBatch, outcomes]
    rw [reach]
    exact tells.known
  · intro other running
    rw [running] at idle
    contradiction
  · intro position outcome atPosition
    rw [Execution.leaveBatch, List.getElem?_append] at atPosition
    split at atPosition
    · exact tells.fates position outcome atPosition
    · rename_i beyond
      rw [outcomes, List.getElem?_map, Option.map_eq_some_iff] at atPosition
      obtain ⟨job, here, rfl⟩ := atPosition
      have inBatch := List.mem_of_getElem? here
      have same : (⟨position, (pool.outcomeOf now job).plan⟩ : Job) = job := by
        have place := sound.position_of_batch stage here
        rw [(poolSound.plan_outcomeOf rising now inBatch).1, show position = job.position by omega]
      rw [same]
      exact ⟨pool.batch, sound.mem_batches stage, inBatch,
        (tells.pool pool stage).fate tells.orderly poolSound rising isOver now inBatch⟩

end Execution

namespace Ledger

/-- A call for a plan ended with a breakdown. -/
def BreaksAt (ledger : Ledger) (job : Job) : Prop :=
  ∃ entry ∈ ledger, entry.job = job ∧ entry.deed = .breaksDown

/-- A plan suffers from breakdowns at others: the worker that took it broke down at another one, or
nothing was ever done about it. -/
def DragsDown (ledger : Ledger) (job : Job) : Prop :=
  (∃ entry ∈ ledger, entry.deed = .breaksDown ∧ entry.job ≠ job ∧ ledger.Took entry.worker job) ∨
    ∀ entry ∈ ledger, entry.job ≠ job

/-- Breakdowns are isolated for a plan: with a breakdown during one of its own calls it is reported
as lost, and otherwise it was taken and is as the replies to its own calls say. -/
structure Isolated (ledger : Ledger) (dryRun : Bool) (job : Job) (statuses : Statuses) : Prop where
  broken : ledger.BreaksAt job → statuses = job.plan.lostStatuses
  taken : ¬ ledger.BreaksAt job → ∃ worker, ledger.Took worker job
  settled : ¬ ledger.BreaksAt job →
    job.plan.progressAfter dryRun (ledger.repliesTo job) = .finished statuses
  applied : ¬ ledger.BreaksAt job → ∀ earlier attempt,
    ledger.repliesTo job = earlier ++ [.ok ()] →
    job.plan.progressAfter dryRun earlier = .calling attempt →
    ∀ dimension ∈ job.plan.attempted attempt, statuses.get dimension = .applied

instance (ledger : Ledger) (worker : PoolWorker) (job : Job) : Decidable (ledger.Took worker job) :=
  inferInstanceAs (Decidable (_ ∈ _))

instance (ledger : Ledger) (job : Job) : Decidable (ledger.BreaksAt job) :=
  inferInstanceAs (Decidable (∃ _ ∈ _, _))

instance (ledger : Ledger) (job : Job) : Decidable (ledger.DragsDown job) :=
  inferInstanceAs (Decidable (_ ∨ _))

variable {ledger : Ledger} {dryRun : Bool} {concurrency : Nat} {batch : Batch} {job : Job}
  {statuses : Statuses}

/-- A plan is lost when it suffers from breakdowns at others. -/
theorem Fate.lost_of_dragsDown (fate : ledger.Fate dryRun concurrency batch job statuses)
    (orderly : ledger.Orderly) (drags : ledger.DragsDown job) :
    statuses = job.plan.lostStatuses := by
  cases fate with
  | lost | untaken => rfl
  | kept took intact settled =>
      rcases drags with ⟨⟨worker, other, deed⟩, mem, breaks, -, otherTook⟩ | untaken
      · obtain rfl : deed = .breaksDown := breaks
        obtain rfl := orderly.taker _ _ _ took otherTook
        exact absurd ⟨other, mem⟩ intact
      · exact absurd rfl (untaken _ took)

/-- Breakdowns are isolated for every plan that does not suffer from breakdowns at others. -/
theorem Fate.isolated (fate : ledger.Fate dryRun concurrency batch job statuses)
    (orderly : ledger.Orderly) (spared : ¬ ledger.DragsDown job) :
    ledger.Isolated dryRun job statuses := by
  cases fate with
  | @kept number _ took intact settled =>
      have unbroken : ¬ ledger.BreaksAt job := by
        rintro ⟨⟨worker, same, deed⟩, mem, rfl, breaks⟩
        obtain rfl : deed = .breaksDown := breaks
        obtain rfl := orderly.taker _ _ _ took (orderly.taken _ mem)
        exact intact ⟨same, mem⟩
      refine ⟨fun breaks => absurd breaks unbroken, fun _ => ⟨_, took⟩, fun _ => settled, ?_⟩
      intro _ earlier attempt replies reached
      rw [replies, Plan.progressAfter_append_singleton reached] at settled
      exact Plan.applied_of_proceed_ok settled
  | @lost number took broke =>
      obtain ⟨other, broke⟩ := broke
      have own : other = job := by
        apply Decidable.byContradiction
        intro ne
        exact spared (.inl ⟨_, broke, rfl, ne, took⟩)
      have breaks : ledger.BreaksAt job := ⟨_, broke, own, rfl⟩
      exact ⟨fun _ => rfl, absurd breaks, absurd breaks, absurd breaks⟩
  | untaken untaken => exact absurd (.inr untaken) spared

/-- A plan about which nothing was done was left by workers that all broke down. -/
theorem Fate.all_broke (fate : ledger.Fate dryRun concurrency batch job statuses)
    (untaken : ∀ entry ∈ ledger, entry.job ≠ job) :
    ∀ number < min (max concurrency 1) batch.jobs.length,
      ledger.Broke ⟨batch.index, number⟩ := by
  cases fate with
  | kept took | lost took => exact absurd rfl (untaken _ took)
  | untaken _ allBroke => exact allBroke

end Ledger

namespace Executor

/-- What a step adds to the ledger of an execution. -/
def entries (executor : Executor) (number : Nat) : Action → Ledger
  | .work id action =>
      if id.execution = number then
        (executor.pool? number).elim [] fun pool =>
          pool.workers[id.number]?.elim [] fun worker =>
            worker.entries executor.settings ⟨pool.batch.index, id.number⟩ pool.queue action
      else []
  | _ => []

/-- The ledger of an execution in a run. -/
def ledger (number : Nat) : Executor → List Action → Ledger
  | _, [] => []
  | executor, action :: rest =>
      match executor.step? action with
      | some next => executor.entries number action ++ ledger number next rest
      | none => []

variable {executor next last start : Executor} {action : Action} {number : Nat}

theorem ledger_cons {rest : List Action} (step : Step executor action next) :
    executor.ledger number (action :: rest) =
      executor.entries number action ++ next.ledger number rest := by
  rw [ledger, step?_eq_some_iff.mpr step]

variable {order : Order} {calls : List Call} {execution : Execution}
  {finished putOff : List Batch} {noted : Ledger}

/-- What is known of an execution that is replaced is known of all, the others being the same. -/
private theorem tells_of_set {dryRun : Bool} {acting : Nat} {before after : Execution}
    (acts : executor.executions[acting]? = some before)
    (replaced : next.executions = executor.executions.set acting after)
    (here : executor.executions[number]? = some execution)
    (tells : execution.Tells order dryRun noted) (nothing : executor.entries number action = [])
    (steps : before = execution → after.Tells order dryRun noted) :
    ∃ last, next.executions[number]? = some last ∧
      last.Tells order dryRun (noted ++ executor.entries number action) := by
  rw [replaced, nothing, List.append_nil]
  by_cases eq : acting = number
  · subst acting
    obtain ⟨bound, -⟩ := List.getElem?_eq_some_iff.mp here
    exact ⟨after, List.getElem?_set_self bound, steps (Option.some.inj (acts.symm.trans here))⟩
  · exact ⟨execution, (List.getElem?_set_ne eq).trans here, tells⟩

/-- An execution is told of after a step by what the step adds to its ledger. -/
theorem Step.tells (step : Step executor action next)
    (here : executor.executions[number]? = some execution)
    (sound : Execution.Sound order calls execution finished putOff)
    (tells : execution.Tells order executor.settings.dryRun noted) :
    ∃ last, next.executions[number]? = some last ∧
      last.Tells order executor.settings.dryRun (noted ++ executor.entries number action) := by
  cases step with
  | elapse => exact ⟨execution, here, by simpa [entries] using tells⟩
  | execute =>
      obtain ⟨bound, -⟩ := List.getElem?_eq_some_iff.mp here
      exact ⟨execution, (List.getElem?_append_left bound).trans here,
        by simpa [entries] using tells⟩
  | turn acts stage =>
      refine tells_of_set acts rfl here tells rfl ?_
      rintro rfl
      exact tells.takeTurn sound stage _ _
  | join acts stage isOver =>
      refine tells_of_set acts rfl here tells rfl ?_
      rintro rfl
      exact tells.leaveBatch sound stage isOver _ _ _
  | resume acts stage late =>
      refine tells_of_set acts rfl here tells rfl ?_
      rintro rfl
      exact tells.withStage (by rw [stage]; rfl) rfl rfl
  | close acts stage =>
      refine tells_of_set acts rfl here tells rfl ?_
      rintro rfl
      exact tells.withStage (by rw [stage]; rfl) rfl rfl
  | @work id action acting pool worker after place acts stage present step =>
      by_cases eq : id.execution = number
      · subst number
        obtain ⟨bound, -⟩ := List.getElem?_eq_some_iff.mp here
        obtain rfl : acting = execution := Option.some.inj (acts.symm.trans here)
        have same : executor.entries id.execution (.work id action) =
            worker.entries executor.settings ⟨pool.batch.index, id.number⟩ pool.queue action := by
          simp [entries, pool?, here, stage, Stage.pool?, present]
        rw [same]
        exact ⟨_, List.getElem?_set_self bound, tells.work sound stage present step rfl⟩
      · refine ⟨execution, (List.getElem?_set_ne eq).trans here, ?_⟩
        simpa [entries, eq] using tells

/-- An execution is told of after a run by its ledger in the run. -/
theorem run?_tells {actions : List Action} (run : executor.run? actions = some last)
    (here : executor.executions[number]? = some execution)
    (sound : Execution.Sound order calls execution finished putOff)
    (tells : execution.Tells order executor.settings.dryRun noted) :
    ∃ final, last.executions[number]? = some final ∧
      final.Tells order executor.settings.dryRun (noted ++ executor.ledger number actions) := by
  induction actions generalizing executor execution calls finished putOff noted with
  | nil =>
      cases run
      exact ⟨execution, here, by simpa [ledger] using tells⟩
  | cons action rest ih =>
      obtain ⟨next, step, run⟩ := run?_cons_eq_some_iff.mp run
      obtain ⟨middle, there, middleTells⟩ := step.tells here sound tells
      -- The invariant of the execution is carried along: it says where its plans are.
      obtain ⟨made, same, sameThere, ran, -⟩ :=
        step.projects (follows_anyEnd executor [action]).1 here
      obtain rfl : same = middle := Option.some.inj (sameThere.symm.trans there)
      obtain ⟨_, _, middleSound, -⟩ := sound.run ran
      rw [← settings_of_step step] at middleTells
      obtain ⟨final, atEnd, finalTells⟩ := ih run there middleSound middleTells
      refine ⟨final, atEnd, ?_⟩
      rw [settings_of_step step] at finalTells
      rw [ledger_cons step, ← List.append_assoc]
      exact finalTells

variable {settings : ExecutorSettings} {before after : List Action} {plans : List Plan}
  {batchSize concurrency : Nat}

/-- What is known of an execution and its ledger at every moment after it was begun. -/
theorem exists_tells_of_execute (reached : (ofSettings settings).run? before = some start)
    (run : start.run? (.execute plans batchSize concurrency :: after) = some executor) :
    let number := start.executions.length
    ∃ execution, executor.executions[number]? = some execution ∧
      execution.Tells ⟨start.clock, plans, batchSize, concurrency⟩ settings.dryRun
        (start.ledger number (.execute plans batchSize concurrency :: after)) := by
  intro number
  have same : start.settings = settings := settings_of_run? reached
  obtain ⟨begun, step, run⟩ := run?_cons_eq_some_iff.mp run
  rw [ledger_cons step, ← same]
  cases step with
  | execute =>
      let order : Order := ⟨start.clock, plans, batchSize, concurrency⟩
      have here : (start.executions ++ [order.execution])[number]? = some order.execution := by
        simp [number]
      exact run?_tells run here (Execution.sound_execution order)
        (Execution.tells_execution order start.settings.dryRun)

/-- Each outcome of an execution is for the plan at its position.  A breakdown is isolated for
every plan but those that were with the worker that broke down at another plan, and those that no
worker took because all of them broke down: these are reported as lost, whatever was replied to
their own calls. -/
theorem breakdown_isolated_unless_dragged_down
    (reached : (ofSettings settings).run? before = some start)
    (run : start.run? (.execute plans batchSize concurrency :: after) = some executor) :
    let number := start.executions.length
    let ledger := start.ledger number (.execute plans batchSize concurrency :: after)
    ∃ execution, executor.executions[number]? = some execution ∧
      ∀ (position : Nat) (outcome : Outcome), execution.outcomes[position]? = some outcome →
        plans[position]? = some outcome.plan ∧
        (¬ ledger.DragsDown ⟨position, outcome.plan⟩ →
          ledger.Isolated settings.dryRun ⟨position, outcome.plan⟩ outcome.statuses) ∧
        (ledger.DragsDown ⟨position, outcome.plan⟩ →
          outcome.statuses = outcome.plan.lostStatuses) ∧
        ((∀ entry ∈ ledger, entry.job ≠ ⟨position, outcome.plan⟩) →
          ∃ batch ∈ Batch.partition plans batchSize, ⟨position, outcome.plan⟩ ∈ batch.jobs ∧
            ∀ worker < min (max concurrency 1) batch.jobs.length,
              ledger.Broke ⟨batch.index, worker⟩) := by
  intro number ledger
  obtain ⟨execution, here, tells⟩ := exists_tells_of_execute reached run
  refine ⟨execution, here, ?_⟩
  intro position outcome atPosition
  obtain ⟨batch, isBatch, inBatch, fate⟩ := tells.fates position outcome atPosition
  have inPlans := Batch.mem_jobsOf_of_mem_partition isBatch inBatch
  exact ⟨Batch.getElem?_of_mem_jobsOf inPlans, fate.isolated tells.orderly,
    fate.lost_of_dragsDown tells.orderly,
    fun untaken => ⟨batch, isBatch, inBatch, fate.all_broke untaken⟩⟩

/-- Two workers do one plan each, and the second one breaks down at the last plan. -/
def brokenAtThird : List Action :=
  [.turn 0, .work ⟨0, 0⟩ .take, .work ⟨0, 0⟩ (.lookUp default), .work ⟨0, 0⟩ .enqueue,
    .work ⟨0, 0⟩ .start, .work ⟨0, 0⟩ (.answer (.ok ()) default), .work ⟨0, 1⟩ .take,
    .work ⟨0, 1⟩ (.lookUp default), .work ⟨0, 1⟩ .enqueue, .work ⟨0, 1⟩ .start,
    .work ⟨0, 1⟩ (.answer (.ok ()) default), .work ⟨0, 1⟩ .take,
    .work ⟨0, 1⟩ (.lookUp default), .work ⟨0, 1⟩ .enqueue, .work ⟨0, 1⟩ .start,
    .work ⟨0, 1⟩ .breakDown, .work ⟨0, 0⟩ .take, .join 0 default, .turn 0, .close 0]

theorem breakdown_isolated_broken_at_third :
    ∃ executor execution first second third,
      (ofSettings .default).run? (.execute threePlans 3 2 :: brokenAtThird) = some executor ∧
      executor.executions[0]? = some execution ∧ execution.stage = .returned ∧
      execution.outcomes = [first, second, third] ∧
      first.statuses = ⟨.skipped .noChange, .applied⟩ ∧
      second.statuses = second.plan.lostStatuses ∧ third.statuses = third.plan.lostStatuses := by
  let start := ofSettings .default
  let actions := Action.execute threePlans 3 2 :: brokenAtThird
  let executor := (start.run? actions).get (by decide +kernel)
  have run : start.run? actions = some executor := (Option.some_get _).symm
  have reached : start.run? [] = some start := rfl
  let execution := executor.executions[0]?.get (by decide +kernel)
  have here : executor.executions[0]? = some execution := (Option.some_get _).symm
  let first := execution.outcomes[0]?.get (by decide +kernel)
  let second := execution.outcomes[1]?.get (by decide +kernel)
  let third := execution.outcomes[2]?.get (by decide +kernel)
  obtain ⟨same, there, outcomes⟩ := breakdown_isolated_unless_dragged_down reached run
  obtain rfl : same = execution := Option.some.inj (there.symm.trans here)
  obtain ⟨-, firstIsolated, -⟩ := outcomes 0 first (Option.some_get _).symm
  obtain ⟨-, -, secondLost, -⟩ := outcomes 1 second (Option.some_get _).symm
  obtain ⟨-, thirdIsolated, -⟩ := outcomes 2 third (Option.some_get _).symm
  have firstSettled := (firstIsolated (by decide +kernel)).settled (by decide +kernel)
  have thirdBroken := (thirdIsolated (by decide +kernel)).broken (by decide +kernel)
  refine ⟨executor, execution, first, second, third, run, here, by decide +kernel,
    by decide +kernel, ?_, secondLost (by decide +kernel), thirdBroken⟩
  refine Progress.finished.inj (firstSettled.symm.trans ?_)
  decide +kernel

/-- Two plans that raise the CPU of two pods. -/
def twoRaises : List Plan :=
  ["a", "bad"].map fun pod => .ofTargets ⟨⟨"default", pod⟩, "app"⟩ ⟨1000, 1000⟩ ⟨1500, 1000⟩

/-- The only worker is answered with success for the first plan and breaks down at the second. -/
def brokenAfterSuccess : List Action :=
  [.turn 0, .work ⟨0, 0⟩ .take, .work ⟨0, 0⟩ (.lookUp default), .work ⟨0, 0⟩ .enqueue,
    .work ⟨0, 0⟩ .start, .work ⟨0, 0⟩ (.answer (.ok ()) default), .work ⟨0, 0⟩ .take,
    .work ⟨0, 0⟩ (.lookUp default), .work ⟨0, 0⟩ .enqueue, .work ⟨0, 0⟩ .start,
    .work ⟨0, 0⟩ .breakDown, .join 0 default, .turn 0, .close 0]

/-- A plan whose only call was answered with success, and which did change, is reported as failed
because another plan broke its worker. -/
theorem applied_reported_as_lost_after_success :
    ∃ executor execution outcome,
      (ofSettings .default).run? (.execute twoRaises 2 1 :: brokenAfterSuccess) = some executor ∧
      executor.executions[0]? = some execution ∧ execution.stage = .returned ∧
      execution.outcomes[0]? = some outcome ∧
      let ledger := (ofSettings .default).ledger 0 (.execute twoRaises 2 1 :: brokenAfterSuccess)
      ledger.repliesTo ⟨0, outcome.plan⟩ = [.ok ()] ∧ ¬ ledger.BreaksAt ⟨0, outcome.plan⟩ ∧
      outcome.statuses = ⟨.failed "resize worker aborted", .skipped .noChange⟩ ∧
      ¬ ledger.Isolated false ⟨0, outcome.plan⟩ outcome.statuses := by
  let start := ofSettings .default
  let actions := Action.execute twoRaises 2 1 :: brokenAfterSuccess
  let executor := (start.run? actions).get (by decide +kernel)
  let execution := executor.executions[0]?.get (by decide +kernel)
  let outcome := execution.outcomes[0]?.get (by decide +kernel)
  refine ⟨executor, execution, outcome, (Option.some_get _).symm, (Option.some_get _).symm,
    by decide +kernel, (Option.some_get _).symm, by decide +kernel, by decide +kernel,
    by decide +kernel, ?_⟩
  intro isolated
  have settled := isolated.settled (by decide +kernel)
  revert settled
  decide +kernel

end Executor

end PodSizing
