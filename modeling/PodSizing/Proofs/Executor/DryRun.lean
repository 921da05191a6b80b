import PodSizing.Proofs.Executor.Isolation

/-!
# Dry runs

In a dry run a worker is done with a plan as soon as it opens it, so that no worker ever looks up a
lock or makes a call.  `Executor.IsUntouched` says so of an executor and is preserved by every step.
As nobody breaks down without a call, no plan is lost either: each one that is not put off is
reported with `Outcome.IsDry`.
-/

namespace PodSizing

/-- What would have been changed is skipped because of the dry run, and the rest because there is
nothing to change. -/
def Outcome.IsDry (outcome : Outcome) : Prop :=
  ∀ dimension, outcome.statuses.get dimension =
    .skipped (if dimension ∈ outcome.plan.changing then .dryRun else .noChange)

namespace Plan

/-- In a dry run a plan is done at once. -/
theorem begin_of_dryRun (plan : Plan) :
    plan.begin true = .finished (plan.allChanging (.skipped .dryRun)) := by
  by_cases nothing : plan.changing = []
  · simp [begin, allChanging, nothing, Statuses.setAll]
  · simp [begin, nothing]

theorem get_allChanging_dryRun (plan : Plan) (dimension : Dimension) :
    (plan.allChanging (.skipped .dryRun)).get dimension =
      .skipped (if dimension ∈ plan.changing then .dryRun else .noChange) := by
  rw [allChanging, Statuses.get_setAll, get_unchanged]
  split <;> rfl

end Plan

namespace Worker

/-- The worker has not gone further with a plan than to take it. -/
def IsAside (worker : Worker) : Prop :=
  worker.state = .free ∨ (∃ job, worker.state = .opening job) ∨ worker.state = .left

variable {settings : ExecutorSettings} {clock : Duration} {id : WorkerId}
  {worker next : Worker} {place nextPlace : Workplace} {action : WorkerAction}

/-- In a dry run a worker stays aside: it touches neither locks nor calls, and all that it notes is
which plans it takes. -/
theorem Step.isAside (dry : settings.dryRun = true) (aside : worker.IsAside)
    (step : Step settings clock id worker place action next nextPlace) :
    next.IsAside ∧ nextPlace.locks = place.locks ∧ nextPlace.calls = place.calls ∧
      ∀ (name : PoolWorker), ∀ entry ∈ worker.entries settings name place.queue action,
        entry.deed = .takes := by
  cases step with
  | leave none_left => exact ⟨.inr (.inr rfl), rfl, rfl, by simp [entries, none_left]⟩
  | take first => exact ⟨.inr (.inl ⟨_, rfl⟩), rfl, rfl, by simp [entries, first]⟩
  | skip now nothing => exact ⟨.inl rfl, rfl, rfl, by simp [entries]⟩
  | lookUp now something =>
      rw [dry, Plan.begin_of_dryRun] at something
      contradiction
  | enqueue | start | finish | retry | breakDown => simp [IsAside] at aside

end Worker

namespace Ledger

variable {ledger : Ledger} {dryRun : Bool} {concurrency : Nat} {batch : Batch} {job : Job}
  {statuses : Statuses}

/-- Where plans were taken and nothing else was done, every plan is as at its beginning. -/
theorem Fate.begin_eq (fate : ledger.Fate dryRun concurrency batch job statuses)
    (takes : ∀ entry ∈ ledger, entry.deed = .takes) (mem : job ∈ batch.jobs) :
    job.plan.begin dryRun = .finished statuses := by
  have unbroken (worker : PoolWorker) : ¬ ledger.Broke worker := by
    rintro ⟨other, broke⟩
    exact absurd (takes _ broke) (by simp)
  cases fate with
  | kept took intact settled =>
      have unheard : ledger.repliesTo job = [] := by
        rw [repliesTo, List.filterMap_eq_nil_iff]
        intro entry noted
        rw [takes entry (List.mem_filter.mp noted).1]
        rfl
      rw [unheard] at settled
      exact settled
  | lost took broke => exact absurd broke (unbroken _)
  | untaken untaken allBroke =>
      have one : 0 < batch.jobs.length := List.length_pos_of_mem mem
      exact absurd (allBroke 0 (by omega)) (unbroken _)

end Ledger

namespace Execution

/-- The workers of an execution are all aside. -/
def IsAside (execution : Execution) : Prop :=
  ∀ pool, execution.stage = .running pool → ∀ worker ∈ pool.workers, worker.IsAside

variable {execution : Execution}

theorem isAside_of_pool?_eq_none (idle : execution.stage.pool? = none) : execution.IsAside := by
  intro pool stage
  rw [stage] at idle
  contradiction

/-- The workers of a batch that begins are aside. -/
theorem isAside_takeTurn (settings : ExecutorSettings) (clock : Duration) :
    (execution.takeTurn settings clock).1.IsAside := by
  unfold takeTurn
  split
  · exact isAside_of_pool?_eq_none rfl
  · split
    · exact isAside_of_pool?_eq_none rfl
    · rintro _ ⟨⟩ worker mem
      obtain ⟨-, rfl⟩ := List.mem_replicate.mp mem
      exact .inl rfl

theorem isAside_leaveBatch (settings : ExecutorSettings) (clock : Duration) (pool : Pool)
    (now : Instant) : (execution.leaveBatch settings clock pool now).IsAside := by
  apply isAside_of_pool?_eq_none
  simp only [leaveBatch]
  split <;> rfl

end Execution

namespace Executor

/-- Nothing was sent and no lock was ever taken, and no worker is about to do so. -/
structure IsUntouched (executor : Executor) : Prop where
  uncalled : executor.calls = []
  unlocked : executor.locks = .empty
  aside : ∀ execution ∈ executor.executions, execution.IsAside

theorem isUntouched_ofSettings (settings : ExecutorSettings) : (ofSettings settings).IsUntouched :=
  ⟨rfl, rfl, by simp [ofSettings]⟩

variable {executor next last start : Executor} {action : Action}

/-- Where one execution is replaced by another one that is aside, all stay so. -/
private theorem aside_set {executions : List Execution} {number : Nat} {after : Execution}
    (aside : ∀ execution ∈ executions, execution.IsAside) (afterAside : after.IsAside) :
    ∀ execution ∈ executions.set number after, execution.IsAside := by
  intro execution mem
  rcases List.mem_or_eq_of_mem_set mem with old | rfl
  · exact aside execution old
  · exact afterAside

/-- In a dry run every step leaves the executor untouched, and nothing but taken plans is noted. -/
theorem IsUntouched.step (untouched : executor.IsUntouched)
    (dry : executor.settings.dryRun = true) (step : Step executor action next) :
    next.IsUntouched ∧ ∀ number, ∀ entry ∈ executor.entries number action,
      entry.deed = .takes := by
  obtain ⟨uncalled, unlocked, aside⟩ := untouched
  cases step with
  | elapse time => exact ⟨⟨uncalled, unlocked, aside⟩, by simp [entries]⟩
  | execute plans batchSize concurrency =>
      refine ⟨⟨uncalled, unlocked, ?_⟩, by simp [entries]⟩
      intro execution mem
      rcases List.mem_append.mp mem with old | new
      · exact aside execution old
      · obtain rfl := List.mem_singleton.mp new
        exact Execution.isAside_of_pool?_eq_none rfl
  | turn here stage =>
      refine ⟨⟨uncalled, unlocked, aside_set aside ?_⟩, by simp [entries]⟩
      exact Execution.isAside_takeTurn executor.settings executor.clock
  | join here stage isOver =>
      refine ⟨⟨uncalled, unlocked, aside_set aside ?_⟩, by simp [entries]⟩
      exact Execution.isAside_leaveBatch executor.settings executor.clock _ _
  | resume here stage late =>
      refine ⟨⟨uncalled, unlocked, aside_set aside ?_⟩, by simp [entries]⟩
      exact Execution.isAside_of_pool?_eq_none rfl
  | close here stage =>
      refine ⟨⟨uncalled, ?_, aside_set aside ?_⟩, by simp [entries]⟩
      · rw [unlocked]
        rfl
      · exact Execution.isAside_of_pool?_eq_none rfl
  | @work id action execution pool worker after place here stage present step =>
      have poolAside := aside execution (List.mem_of_getElem? here) pool stage
      obtain ⟨afterAside, locks, calls, takes⟩ :=
        step.isAside dry (poolAside worker (List.mem_of_getElem? present))
      refine ⟨⟨calls.trans uncalled, locks.trans unlocked, aside_set aside ?_⟩, ?_⟩
      · rintro _ ⟨⟩ other mem
        rcases List.mem_or_eq_of_mem_set mem with old | rfl
        · exact poolAside other old
        · exact afterAside
      · intro number
        by_cases own : id.execution = number
        · subst number
          simpa [entries, pool?, here, stage, Stage.pool?, present, workplace] using takes _
        · simp [entries, own]

/-- In a dry run an executor stays untouched, and its ledgers note nothing but taken plans. -/
theorem IsUntouched.run {actions : List Action} (untouched : executor.IsUntouched)
    (dry : executor.settings.dryRun = true) (run : executor.run? actions = some last) :
    last.IsUntouched ∧ ∀ number, ∀ entry ∈ executor.ledger number actions,
      entry.deed = .takes := by
  induction actions generalizing executor with
  | nil =>
      cases run
      exact ⟨untouched, by simp [ledger]⟩
  | cons action rest ih =>
      obtain ⟨next, step, run⟩ := run?_cons_eq_some_iff.mp run
      obtain ⟨nextUntouched, noted⟩ := untouched.step dry step
      obtain ⟨lastUntouched, later⟩ := ih nextUntouched ((settings_of_step step).symm ▸ dry) run
      refine ⟨lastUntouched, fun number entry mem => ?_⟩
      rw [ledger_cons step] at mem
      exact (List.mem_append.mp mem).elim (noted number entry) (later number entry)

/-- In a dry run all that an execution reports of its plans is dry, at every moment. -/
theorem isDry_of_execute {settings : ExecutorSettings} {before after : List Action}
    {plans : List Plan} {batchSize concurrency : Nat} {execution : Execution}
    (dry : settings.dryRun = true) (reached : (ofSettings settings).run? before = some start)
    (run : start.run? (.execute plans batchSize concurrency :: after) = some executor)
    (here : executor.executions[start.executions.length]? = some execution) :
    executor.IsUntouched ∧ ∀ outcome ∈ execution.outcomes, outcome.IsDry := by
  have startDry : start.settings.dryRun = true := by
    rw [settings_of_run? reached]
    exact dry
  obtain ⟨startUntouched, -⟩ := (isUntouched_ofSettings settings).run dry reached
  obtain ⟨untouched, takes⟩ := startUntouched.run startDry run
  obtain ⟨same, there, tells⟩ := exists_tells_of_execute reached run
  obtain rfl : same = execution := Option.some.inj (there.symm.trans here)
  refine ⟨untouched, ?_⟩
  intro outcome mem dimension
  obtain ⟨position, atPosition⟩ := List.mem_iff_getElem?.mp mem
  obtain ⟨batch, -, inBatch, fate⟩ := tells.fates position outcome atPosition
  have finished := fate.begin_eq (takes _) inBatch
  rw [dry, Plan.begin_of_dryRun, Progress.finished.injEq] at finished
  rw [← finished]
  exact outcome.plan.get_allChanging_dryRun dimension

end Executor

end PodSizing
