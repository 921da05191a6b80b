import PodSizing.Proofs.Executor.Application
import PodSizing.Proofs.Executor.Step
import PodSizing.Proofs.Lookup
import PodSizing.Proofs.Plan.Batch

/-!
# Pools of workers

While a batch is at work, each of its plans waits in the queue, is with one worker, or was lost
with a worker that broke down.  `Pool.Sound` says so of a state and is preserved by every step;
from it follows what the outcomes of the batch are when all workers are gone.
-/

namespace PodSizing

namespace Worker

/-- The plan that a worker has taken and not done. -/
def job? (worker : Worker) : Option Job :=
  match worker.state with
  | .opening job => some job
  | .queueing job _ => some job
  | .waiting job _ => some job
  | .calling job _ _ _ => some job
  | _ => none

/-- The plan of an outcome with its position. -/
def doneJob (entry : Nat × Outcome) : Job := ⟨entry.1, entry.2.plan⟩

/-- The plans that a worker has taken and not lost. -/
def jobs (worker : Worker) : List Job := worker.done.map doneJob ++ worker.job?.toList

/-- The outcomes of a worker are proper, and so is the attempt that it makes. -/
structure Sound (worker : Worker) : Prop where
  proper : ∀ entry ∈ worker.done, entry.2.IsProper
  attempt : ∀ job lock attempt since, worker.state = .calling job lock attempt since →
    job.plan.IsAttempt attempt

variable {settings : ExecutorSettings} {clock : Duration} {id : WorkerId}
  {worker next : Worker} {place nextPlace : Workplace} {action : WorkerAction}

/-- A step keeps the plans of a worker, takes one from the queue, or loses them all. -/
theorem Step.jobs_cases (step : Step settings clock id worker place action next nextPlace) :
    (nextPlace.queue = place.queue ∧ next.jobs = worker.jobs) ∨
      (∃ job, place.queue = job :: nextPlace.queue ∧ next.jobs = worker.jobs ++ [job]) ∨
      (nextPlace.queue = place.queue ∧ next = ⟨.lost, []⟩) := by
  cases step with
  | leave none_left => exact .inl ⟨rfl, rfl⟩
  | take first => exact .inr (.inl ⟨_, first, by simp [jobs, job?]⟩)
  | skip now nothing => exact .inl ⟨rfl, by simp [jobs, job?, doneJob]⟩
  | lookUp now something => exact .inl ⟨rfl, rfl⟩
  | enqueue => exact .inl ⟨rfl, rfl⟩
  | start held => exact .inl ⟨rfl, rfl⟩
  | finish ends settled => exact .inl ⟨rfl, by simp [jobs, job?, doneJob]⟩
  | retry ends again => exact .inl ⟨rfl, rfl⟩
  | breakDown => exact .inr (.inr ⟨rfl, rfl⟩)

/-- A worker leaves only when nothing waits. -/
theorem Step.queue_of_left (step : Step settings clock id worker place action next nextPlace)
    (left : next.state = .left) : nextPlace.queue = [] := by
  cases step with
  | leave none_left => exact none_left
  | _ => simp at left

theorem Step.isGone (step : Step settings clock id worker place action next nextPlace) :
    worker.isGone = false := by
  cases step <;> rfl

theorem Step.sound (step : Step settings clock id worker place action next nextPlace)
    (sound : worker.Sound) : next.Sound := by
  rcases sound with ⟨proper, attempt⟩
  cases step with
  | leave | take | lookUp | enqueue => exact ⟨proper, by simp⟩
  | skip now nothing =>
      refine ⟨?_, by simp⟩
      intro entry mem
      rcases List.mem_append.mp mem with earlier | last
      · exact proper entry earlier
      · rw [List.mem_singleton.mp last]
        exact Plan.respects_of_begin nothing
  | start held =>
      refine ⟨proper, ?_⟩
      intro job lock attempt since stateEq
      cases stateEq
      trivial
  | finish ends settled =>
      refine ⟨?_, by simp⟩
      intro entry mem
      rcases List.mem_append.mp mem with earlier | last
      · exact proper entry earlier
      · rw [List.mem_singleton.mp last]
        exact Plan.respects_of_proceed (attempt _ _ _ _ rfl) settled
  | retry ends again =>
      refine ⟨proper, ?_⟩
      intro job lock attempt since stateEq
      cases stateEq
      exact Plan.isAttempt_of_proceed again
  | breakDown => exact ⟨by simp, by simp⟩

/-- A call is for the plan that the worker is at. -/
theorem Step.job_of_calls {made : List Call}
    (step : Step settings clock id worker place action next nextPlace)
    (calls : nextPlace.calls = place.calls ++ made) :
    ∀ call ∈ made, ∃ job ∈ worker.jobs, job.position = call.position ∧
      ∃ attempt, call.request = job.plan.requestOf attempt := by
  cases step with
  | start held =>
      obtain rfl := List.append_cancel_left calls
      intro call mem
      obtain rfl := List.mem_singleton.mp mem
      exact ⟨_, by simp [jobs, job?], rfl, .whole, rfl⟩
  | retry ends again =>
      obtain rfl := List.append_cancel_left calls
      intro call mem
      obtain rfl := List.mem_singleton.mp mem
      exact ⟨_, by simp [jobs, job?], rfl, _, rfl⟩
  | _ =>
      obtain rfl : made = [] := by simpa [Workplace.withReply] using calls
      simp

end Worker

/-- An entry of a list and its surroundings, with which it may be replaced. -/
theorem exists_append_of_getElem? {α : Type} {items : List α} {index : Nat} {item : α}
    (here : items[index]? = some item) :
    ∃ before after, items = before ++ item :: after ∧
      ∀ other, items.set index other = before ++ other :: after := by
  rcases List.getElem?_eq_some_iff.mp here with ⟨bound, rfl⟩
  refine ⟨items.take index, items.drop (index + 1), ?_, ?_⟩
  · rw [List.getElem_cons_drop, List.take_append_drop]
  · intro other
    rw [List.set_eq_take_append_cons_drop, if_pos bound]

namespace Pool

/-- Each plan of the batch waits, is with one worker, or was lost; nothing waits when a worker has
left; and there are as many workers as there should be. -/
structure Sound (concurrency : Nat) (pool : Pool) : Prop where
  jobs : ∃ lost, (pool.workers.flatMap Worker.jobs ++ pool.queue ++ lost).Perm pool.batch.jobs ∧
    (lost ≠ [] → ∃ worker ∈ pool.workers, worker.state = .lost)
  queue : ∀ worker ∈ pool.workers, worker.state = .left → pool.queue = []
  size : pool.workers.length = min (max concurrency 1) pool.batch.jobs.length
  workers : ∀ worker ∈ pool.workers, worker.Sound

theorem sound_ofBatch (batch : Batch) (concurrency : Nat) :
    (ofBatch batch concurrency).Sound concurrency where
  jobs := by
    refine ⟨[], ?_, by simp⟩
    have none_taken : (ofBatch batch concurrency).workers.flatMap Worker.jobs = [] := by
      rw [List.flatMap_eq_nil_iff]
      intro worker mem
      rcases List.mem_replicate.mp mem with ⟨-, rfl⟩
      rfl
    rw [none_taken, List.nil_append, List.append_nil]
    exact List.Perm.refl _
  queue worker mem left := by
    rcases List.mem_replicate.mp mem with ⟨-, rfl⟩
    simp [Worker.fresh] at left
  size := by simp [ofBatch]
  workers worker mem := by
    rcases List.mem_replicate.mp mem with ⟨-, rfl⟩
    exact ⟨by simp [Worker.fresh], by simp [Worker.fresh]⟩

variable {settings : ExecutorSettings} {clock : Duration} {id : WorkerId} {concurrency : Nat}
  {pool : Pool} {index : Nat} {worker next : Worker} {place nextPlace : Workplace}
  {action : WorkerAction}

/-- A worker that is gone stays among the others when one of them acts. -/
private theorem mem_set_of_gone (present : pool.workers[index]? = some worker)
    (step : Worker.Step settings clock id worker place action next nextPlace)
    {other : Worker} (mem : other ∈ pool.workers) (gone : other.isGone = true) :
    other ∈ pool.workers.set index next := by
  obtain ⟨before, after, split, replace⟩ := exists_append_of_getElem? present
  rw [split, List.mem_append, List.mem_cons] at mem
  rw [replace, List.mem_append, List.mem_cons]
  rcases mem with first | same | last
  · exact .inl first
  · subst other
    rw [step.isGone] at gone
    contradiction
  · exact .inr (.inr last)

theorem Sound.withWorker (sound : pool.Sound concurrency)
    (present : pool.workers[index]? = some worker)
    (step : Worker.Step settings clock id worker place action next nextPlace)
    (queueEq : place.queue = pool.queue) :
    (pool.withWorker index next nextPlace.queue).Sound concurrency := by
  rcases sound with ⟨⟨lost, perm, lostWorker⟩, queue, size, workers⟩
  refine ⟨?_, ?_, ?_, ?_⟩
  · obtain ⟨before, after, split, replace⟩ := exists_append_of_getElem? present
    have stillLost : lost ≠ [] → ∃ other ∈ pool.workers.set index next, other.state = .lost := by
      intro some_lost
      obtain ⟨other, mem, state⟩ := lostWorker some_lost
      exact ⟨other, mem_set_of_gone present step mem (by simp [Worker.isGone, state]), state⟩
    simp only [split, List.flatMap_append, List.flatMap_cons] at perm
    rw [List.perm_iff_count] at perm
    simp only [Pool.withWorker, replace, List.flatMap_append, List.flatMap_cons]
    rw [replace] at stillLost
    rcases step.jobs_cases with ⟨sameQueue, sameJobs⟩ | ⟨job, taken, more⟩ | ⟨sameQueue, rfl⟩
    · refine ⟨lost, ?_, stillLost⟩
      rw [List.perm_iff_count]
      intro each
      simpa [sameQueue, sameJobs, queueEq] using perm each
    · refine ⟨lost, ?_, stillLost⟩
      rw [List.perm_iff_count]
      intro each
      have counted := perm each
      rw [← queueEq, taken] at counted
      simp only [List.count_append, more, List.count_cons, List.count_nil] at counted ⊢
      omega
    · refine ⟨worker.jobs ++ lost, ?_, fun _ => ⟨⟨.lost, []⟩, by simp, rfl⟩⟩
      rw [List.perm_iff_count]
      intro each
      have counted := perm each
      simp only [List.count_append, sameQueue, queueEq, Worker.jobs, Worker.job?, List.map_nil,
        Option.toList_none, List.count_nil] at counted ⊢
      omega
  · intro other mem left
    rcases List.mem_or_eq_of_mem_set mem with old | rfl
    · have empty := queue other old left
      rcases step.jobs_cases with ⟨sameQueue, -⟩ | ⟨job, taken, -⟩ | ⟨sameQueue, -⟩
      · exact sameQueue.trans (queueEq.trans empty)
      · rw [queueEq, empty] at taken
        contradiction
      · exact sameQueue.trans (queueEq.trans empty)
    · exact step.queue_of_left left
  · simpa [Pool.withWorker] using size
  · intro other mem
    rcases List.mem_or_eq_of_mem_set mem with old | rfl
    · exact workers other old
    · exact step.sound (workers worker (List.mem_of_getElem? present))

/-- Every plan that a worker is at or has done is a plan of the batch. -/
theorem Sound.mem_jobs (sound : pool.Sound concurrency) (mem : worker ∈ pool.workers) {job : Job}
    (taken : job ∈ worker.jobs) : job ∈ pool.batch.jobs := by
  rcases sound.jobs with ⟨lost, perm, -⟩
  apply perm.subset
  simp only [List.mem_append, List.mem_flatMap]
  exact .inl (.inl ⟨worker, mem, taken⟩)

/-- The outcome that a batch has for a plan. -/
def outcomeOf (pool : Pool) (now : Instant) (job : Job) : Outcome :=
  (pool.reported.get? job.position).getD (lostOutcome now job)

private theorem lookup_map_position {α : Type} (jobs : List Job) (value : Job → α)
    (position : Nat) :
    (jobs.map fun job => (job.position, value job)).lookup position =
      (jobs.find? fun job => job.position == position).map value := by
  induction jobs with
  | nil => rfl
  | cons job rest ih =>
      by_cases eq : job.position = position
      · simp [eq]
      · simp [List.lookup_cons, eq, beq_eq_false_iff_ne.2 (Ne.symm eq), ih]

/-- The plans that some workers have done. -/
def doneJobs (workers : List Worker) : List Job :=
  (workers.flatMap Worker.done).map Worker.doneJob

private theorem doneJobs_sublist (workers : List Worker) :
    (doneJobs workers).Sublist (workers.flatMap Worker.jobs) := by
  induction workers with
  | nil => exact List.Sublist.refl _
  | cons worker rest ih =>
      simp only [doneJobs, List.flatMap_cons, List.map_append] at ih ⊢
      exact (List.sublist_append_left _ _).append ih

/-- The positions at which workers have left outcomes are distinct. -/
theorem Sound.distinct (sound : pool.Sound concurrency)
    (rising : pool.batch.jobs.Pairwise fun first second => first.position < second.position) :
    ((pool.workers.flatMap Worker.done).map Prod.fst).Nodup := by
  rcases sound.jobs with ⟨lost, perm, -⟩
  have positions : (pool.batch.jobs.map Job.position).Nodup := by
    rw [List.Nodup, List.pairwise_map]
    exact rising.imp Nat.ne_of_lt
  have allPositions := (perm.map Job.position).nodup_iff.mpr positions
  have done : (pool.workers.flatMap Worker.done).map Prod.fst =
      (doneJobs pool.workers).map Job.position := by
    simp [doneJobs, Function.comp_def, Worker.doneJob]
  rw [done]
  apply List.Nodup.sublist (List.Sublist.map Job.position _) allPositions
  rw [List.append_assoc]
  exact (doneJobs_sublist pool.workers).trans (List.sublist_append_left _ _)

/-- What is reported at a position is what a worker has left there. -/
theorem Sound.reported_eq_some_iff (sound : pool.Sound concurrency)
    (rising : pool.batch.jobs.Pairwise fun first second => first.position < second.position)
    {position : Nat} {outcome : Outcome} :
    pool.reported.get? position = some outcome ↔
      ∃ worker ∈ pool.workers, (position, outcome) ∈ worker.done := by
  rw [reported, PositionTable.get?_insertMany _ (sound.distinct rising),
    PositionTable.get?_empty, Option.or_none, lookup_eq_some_iff_mem (sound.distinct rising),
    List.mem_flatMap]

/-- When all workers are gone, those that did not break down have left. -/
theorem left_of_isOver (isOver : pool.isOver = true) {worker : Worker}
    (isWorker : worker ∈ pool.workers) (intact : worker.state ≠ .lost) : worker.state = .left := by
  have gone := List.all_eq_true.mp isOver worker isWorker
  rw [Worker.isGone, Bool.or_eq_true, beq_iff_eq, beq_iff_eq] at gone
  exact gone.resolve_right intact

/-- When all workers are gone and one of them did not break down, nothing waits. -/
theorem Sound.queue_of_isOver (sound : pool.Sound concurrency) (isOver : pool.isOver = true)
    (survived : ∃ worker ∈ pool.workers, worker.state ≠ .lost) : pool.queue = [] := by
  obtain ⟨worker, mem, intact⟩ := survived
  exact sound.queue worker mem (left_of_isOver isOver mem intact)

/-- An outcome that a worker has left is for the plan of the batch at its position. -/
theorem Sound.reported_cases (sound : pool.Sound concurrency)
    (rising : pool.batch.jobs.Pairwise fun first second => first.position < second.position)
    {position : Nat} {outcome : Outcome} (found : pool.reported.get? position = some outcome) :
    ⟨position, outcome.plan⟩ ∈ pool.batch.jobs ∧ outcome.IsProper := by
  obtain ⟨worker, isWorker, done⟩ := (sound.reported_eq_some_iff rising).mp found
  refine ⟨sound.mem_jobs isWorker ?_, (sound.workers worker isWorker).proper _ done⟩
  simp only [Worker.jobs, List.mem_append, List.mem_map]
  exact .inl ⟨(position, outcome), done, rfl⟩

/-- The outcomes of a batch are those for its plans, in their order. -/
theorem Sound.outcomes_eq (sound : pool.Sound concurrency)
    (rising : pool.batch.jobs.Pairwise fun first second => first.position < second.position)
    (now : Instant) : pool.outcomes now = pool.batch.jobs.map (pool.outcomeOf now) := by
  have listed : (pool.batch.jobs.map fun job => (job.position, pool.outcomeOf now job)).Pairwise
      fun first second => first.1 < second.1 := by
    rw [List.pairwise_map]
    exact rising
  have filled : pool.reported.fill (pool.batch.jobs.map fun job =>
      (job.position, lostOutcome now job)) = ⟨_, listed⟩ := by
    apply PositionTable.ext_get?
    intro position
    rw [PositionTable.get?_fill, lookup_map_position]
    show _ = List.lookup position _
    rw [lookup_map_position]
    cases found : pool.batch.jobs.find? fun job => job.position == position with
    | some job =>
        have here : job.position = position := by simpa using List.find?_some found
        subst position
        cases reportedEq : pool.reported.get? job.position <;> simp [outcomeOf, reportedEq]
    | none =>
        cases reportedEq : pool.reported.get? position with
        | none => rfl
        | some outcome =>
            have absent := List.find?_eq_none.mp found _ (sound.reported_cases rising reportedEq).1
            simp at absent
  rw [outcomes, filled]
  simp [PositionTable.values]

/-- The outcome of a plan of the batch is for this plan. -/
theorem Sound.plan_outcomeOf (sound : pool.Sound concurrency)
    (rising : pool.batch.jobs.Pairwise fun first second => first.position < second.position)
    (now : Instant) {job : Job} (mem : job ∈ pool.batch.jobs) :
    (pool.outcomeOf now job).plan = job.plan ∧ (pool.outcomeOf now job).IsProper := by
  cases found : pool.reported.get? job.position with
  | none =>
      simp only [outcomeOf, found, Option.getD_none]
      exact ⟨rfl, job.plan.respects_allChanging _⟩
  | some outcome =>
      obtain ⟨inBatch, proper⟩ := sound.reported_cases rising found
      simp only [outcomeOf, found, Option.getD_some]
      refine ⟨?_, proper⟩
      exact congrArg Job.plan (Batch.eq_of_position_eq rising inBatch mem rfl)

end Pool

end PodSizing
