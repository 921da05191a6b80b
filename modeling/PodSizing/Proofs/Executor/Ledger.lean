import PodSizing.Proofs.Executor.Taking

/-!
# The ledger of an execution

A ledger notes who took which plan, what was heard about the calls for it, and who broke down
during one.  `Plan.progressAfter` says how far the replies bring a plan.  `Worker.Tells` ties a
worker to the ledger: what it has done is what the replies make of its plans, and it has lost them
all as soon as it broke down.  `Pool.Tells` says so of all workers at a batch and is preserved by
every step of one of them.  When they are gone, it gives each plan of the batch its `Ledger.Fate`.
-/

namespace PodSizing

namespace Plan

/-- How far a plan has come with a further reply. -/
def goOn (plan : Plan) : Progress → Reply → Progress
  | .finished statuses, _ => .finished statuses
  | .calling attempt, reply => plan.proceed attempt reply

/-- How far a plan has come with the replies to its calls, in their order. -/
def progressAfter (plan : Plan) (dryRun : Bool) (replies : List Reply) : Progress :=
  replies.foldl plan.goOn (plan.begin dryRun)

theorem progressAfter_append_singleton {plan : Plan} {dryRun : Bool} {replies : List Reply}
    {attempt : Attempt} (reached : plan.progressAfter dryRun replies = .calling attempt)
    (reply : Reply) :
    plan.progressAfter dryRun (replies ++ [reply]) = plan.proceed attempt reply := by
  rw [progressAfter, List.foldl_append, ← progressAfter, reached]
  rfl

/-- What a call was about is applied when it was answered with success. -/
theorem applied_of_proceed_ok {plan : Plan} {attempt : Attempt} {statuses : Statuses}
    (settled : plan.proceed attempt (.ok ()) = .finished statuses) :
    ∀ dimension ∈ plan.attempted attempt, statuses.get dimension = .applied := by
  intro dimension mem
  cases attempt with
  | whole =>
      cases settled
      exact (Statuses.get_setAll _ _ _ _).trans (if_pos mem)
  | reduced refused =>
      cases settled
      exact (Statuses.get_setAll _ _ _ _).trans (if_pos mem)

end Plan

/-- A worker of the pool at a batch. -/
structure PoolWorker where
  batch : Nat
  number : Nat
  deriving DecidableEq

/-- What a worker does about a plan. -/
inductive Deed where
  | takes
  /-- A call for the plan is over, with the reply of the runtime or a timeout. -/
  | hears (reply : Reply)
  /-- The worker breaks down during a call for the plan. -/
  | breaksDown
  deriving DecidableEq

/-- The reply that is heard. -/
def Deed.reply? : Deed → Option Reply
  | .hears reply => some reply
  | _ => none

/-- What was done about a plan, and by whom. -/
structure Entry where
  worker : PoolWorker
  job : Job
  deed : Deed
  deriving DecidableEq

/-- What the workers of an execution did, in the order of time. -/
abbrev Ledger := List Entry

namespace Ledger

/-- A worker has taken a plan from the queue. -/
def Took (ledger : Ledger) (worker : PoolWorker) (job : Job) : Prop :=
  ⟨worker, job, .takes⟩ ∈ ledger

/-- A worker broke down during a call for a plan. -/
def BrokeAt (ledger : Ledger) (worker : PoolWorker) (job : Job) : Prop :=
  ⟨worker, job, .breaksDown⟩ ∈ ledger

/-- A worker broke down during some call. -/
def Broke (ledger : Ledger) (worker : PoolWorker) : Prop := ∃ job, ledger.BrokeAt worker job

/-- The replies to the calls for a plan. -/
def repliesTo (ledger : Ledger) (job : Job) : List Reply :=
  (ledger.filter fun entry => entry.job = job).filterMap fun entry => entry.deed.reply?

variable {ledger more : Ledger} {entry : Entry} {worker : PoolWorker} {job : Job}

@[simp]
theorem took_append :
    Took (ledger ++ more) worker job ↔ ledger.Took worker job ∨ Took more worker job :=
  List.mem_append

@[simp]
theorem took_singleton :
    Took [entry] worker job ↔ entry = ⟨worker, job, .takes⟩ := by
  rw [Took, List.mem_singleton, eq_comm]

@[simp]
theorem broke_singleton :
    Broke [entry] worker ↔ entry.worker = worker ∧ entry.deed = .breaksDown := by
  obtain ⟨name, job, deed⟩ := entry
  simp [Broke, BrokeAt, eq_comm]

theorem broke_append :
    Broke (ledger ++ more) worker ↔ ledger.Broke worker ∨ Broke more worker := by
  simp [Broke, BrokeAt, exists_or]

/-- Who has no entries took nothing. -/
theorem not_took (absent : ∀ entry ∈ ledger, entry.worker ≠ worker) (job : Job) :
    ¬ ledger.Took worker job := fun took => absent _ took rfl

theorem not_broke (absent : ∀ entry ∈ ledger, entry.worker ≠ worker) : ¬ ledger.Broke worker := by
  rintro ⟨job, broke⟩
  exact absent _ broke rfl

theorem repliesTo_append (ledger more : Ledger) (job : Job) :
    repliesTo (ledger ++ more) job = ledger.repliesTo job ++ repliesTo more job := by
  simp [repliesTo]

theorem repliesTo_singleton :
    repliesTo [entry] job = if entry.job = job then entry.deed.reply?.toList else [] := by
  by_cases about : entry.job = job
  · cases heard : entry.deed.reply? <;> simp [repliesTo, about, heard]
  · simp [repliesTo, about]

/-- Nothing is heard about a plan without entries. -/
theorem repliesTo_eq_nil (none_about : ∀ entry ∈ ledger, entry.job ≠ job) :
    ledger.repliesTo job = [] := by
  have nothing : ledger.filter (fun entry => entry.job = job) = [] := by
    simpa using none_about
  rw [repliesTo, nothing, List.filterMap_nil]

/-- Every entry is about a plan that its worker has taken, and no plan is taken by two. -/
structure Orderly (ledger : Ledger) : Prop where
  taken : ∀ entry ∈ ledger, ledger.Took entry.worker entry.job
  taker : ∀ first second job, ledger.Took first job → ledger.Took second job → first = second

theorem orderly_nil : Orderly [] := ⟨by simp, by simp [Took]⟩

/-- A ledger stays orderly when a worker takes a plan that is not in it. -/
theorem Orderly.take (orderly : ledger.Orderly) (untaken : ∀ entry ∈ ledger, entry.job ≠ job)
    (worker : PoolWorker) : Orderly (ledger ++ [⟨worker, job, .takes⟩]) := by
  have noTaker (other : PoolWorker) : ¬ ledger.Took other job := fun took => untaken _ took rfl
  refine ⟨?_, ?_⟩
  · intro entry mem
    rw [took_append, took_singleton]
    rcases List.mem_append.mp mem with old | new
    · exact .inl (orderly.taken entry old)
    · obtain rfl := List.mem_singleton.mp new
      exact .inr rfl
  · intro first second each firstTook secondTook
    rw [took_append, took_singleton, Entry.mk.injEq] at firstTook secondTook
    rcases firstTook with firstOld | ⟨rfl, rfl, -⟩ <;>
      rcases secondTook with secondOld | ⟨rfl, same, -⟩
    · exact orderly.taker first second each firstOld secondOld
    · exact absurd (same ▸ firstOld) (noTaker first)
    · exact absurd secondOld (noTaker second)
    · rfl

/-- A ledger stays orderly when a worker does something else about a plan that it has taken. -/
theorem Orderly.goOn (orderly : ledger.Orderly) (took : ledger.Took worker job) {deed : Deed}
    (other : deed ≠ .takes) : Orderly (ledger ++ [⟨worker, job, deed⟩]) := by
  have sameTook (each : PoolWorker) (plan : Job) :
      Took (ledger ++ [⟨worker, job, deed⟩]) each plan ↔ ledger.Took each plan := by
    simp [other]
  refine ⟨?_, ?_⟩
  · intro entry mem
    rw [sameTook]
    rcases List.mem_append.mp mem with old | new
    · exact orderly.taken entry old
    · obtain rfl := List.mem_singleton.mp new
      exact took
  · intro first second each firstTook secondTook
    rw [sameTook] at firstTook secondTook
    exact orderly.taker first second each firstTook secondTook

end Ledger

namespace Worker

/-- What a worker notes when it acts. -/
def entries (settings : ExecutorSettings) (name : PoolWorker) (worker : Worker)
    (queue : List Job) (action : WorkerAction) : Ledger :=
  match action, worker.job? with
  | .take, _ => queue.head?.toList.map fun job => ⟨name, job, .takes⟩
  | .answer reply _, some job => [⟨name, job, .hears reply⟩]
  | .expire _, some job => [⟨name, job, .hears (.error (.timeout settings.applyTimeout))⟩]
  | .breakDown, some job => [⟨name, job, .breaksDown⟩]
  | _, _ => []

/-- How far a worker is with the plan that it has taken and not done. -/
def standing? (dryRun : Bool) (worker : Worker) : Option (Job × Progress) :=
  match worker.state with
  | .opening job => some (job, job.plan.begin dryRun)
  | .queueing job _ => some (job, .calling .whole)
  | .waiting job _ => some (job, .calling .whole)
  | .calling job _ attempt _ => some (job, .calling attempt)
  | _ => none

/-- How far a worker is with each of its plans. -/
def account (dryRun : Bool) (worker : Worker) : List (Job × Progress) :=
  worker.done.map (fun entry => (doneJob entry, .finished entry.2.statuses)) ++
    (worker.standing? dryRun).toList

variable {settings : ExecutorSettings} {clock : Duration} {id : WorkerId} {dryRun : Bool}
  {worker next : Worker} {place nextPlace : Workplace} {action : WorkerAction}
  {ledger entries : Ledger} {name : PoolWorker} {queue rest : List Job}

@[simp]
theorem map_fst_account (dryRun : Bool) (worker : Worker) :
    (worker.account dryRun).map Prod.fst = worker.jobs := by
  rcases worker with ⟨state, done⟩
  cases state <;> simp [account, standing?, jobs, job?]

/-- What a worker notes when it acts, and how this shows in its account and in the queue. -/
inductive Notes (dryRun : Bool) (name : PoolWorker) (worker : Worker) (queue : List Job) :
    Ledger → Worker → List Job → Prop
  | silent {next : Worker} (same : next.account dryRun = worker.account dryRun)
      (intact : next.state ≠ .lost) : Notes dryRun name worker queue [] next queue
  | takes {next : Worker} {job : Job} {rest : List Job} (first : queue = job :: rest)
      (more : next.account dryRun = worker.account dryRun ++ [(job, job.plan.begin dryRun)])
      (intact : next.state ≠ .lost) :
      Notes dryRun name worker queue [⟨name, job, .takes⟩] next rest
  | hears {next : Worker} {others : List (Job × Progress)} {job : Job} {attempt : Attempt}
      {reply : Reply} (before : worker.account dryRun = others ++ [(job, .calling attempt)])
      (after : next.account dryRun = others ++ [(job, job.plan.proceed attempt reply)])
      (intact : next.state ≠ .lost) :
      Notes dryRun name worker queue [⟨name, job, .hears reply⟩] next queue
  | breaksDown {job : Job} (own : job ∈ worker.jobs) :
      Notes dryRun name worker queue [⟨name, job, .breaksDown⟩] ⟨.lost, []⟩ queue

/-- When a call is over, the worker notes what it heard. -/
private theorem entries_of_ends {since : Duration} {reply : Reply} {now : Instant} {job : Job}
    (ends : CallEnds settings clock since action reply now) (name : PoolWorker)
    (queue : List Job) (atJob : worker.job? = some job) :
    worker.entries settings name queue action = [⟨name, job, .hears reply⟩] := by
  cases ends with
  | answered => simp [Worker.entries, atJob]
  | expired => simp [Worker.entries, atJob]

theorem Step.notes (step : Step settings clock id worker place action next nextPlace)
    (name : PoolWorker) :
    Notes settings.dryRun name worker place.queue
      (worker.entries settings name place.queue action) next nextPlace.queue := by
  cases step with
  | leave none_left =>
      simp only [Worker.entries, none_left, List.head?_nil, Option.toList_none, List.map_nil]
      exact .silent rfl (by simp)
  | take first =>
      simp only [Worker.entries, first, List.head?_cons, Option.toList_some, List.map_cons,
        List.map_nil]
      exact .takes rfl (by simp [account, standing?]) (by simp)
  | skip now nothing =>
      exact .silent (by simp [account, standing?, doneJob, nothing]) (by simp)
  | lookUp now something => exact .silent (by simp [account, standing?, something]) (by simp)
  | enqueue => exact .silent rfl (by simp)
  | start held => exact .silent rfl (by simp)
  | finish ends settled =>
      rw [entries_of_ends ends name _ rfl]
      exact .hears rfl (by simp [account, standing?, doneJob, settled]) (by simp)
  | retry ends again =>
      rw [entries_of_ends ends name _ rfl]
      exact .hears rfl (by simp [account, standing?, again]) (by simp)
  | breakDown => exact .breaksDown (by simp [jobs, job?])

/-- The ledger tells how far a worker is with its plans.  A worker that broke down has lost all
that it had taken. -/
structure Tells (dryRun : Bool) (ledger : Ledger) (name : PoolWorker) (worker : Worker) :
    Prop where
  jobs : ∀ job, job ∈ worker.jobs ↔ ledger.Took name job ∧ ¬ ledger.Broke name
  lost : worker.state = .lost ↔ ledger.Broke name
  account : ∀ entry ∈ worker.account dryRun,
    entry.1.plan.progressAfter dryRun (ledger.repliesTo entry.1) = entry.2

theorem tells_fresh (absent : ∀ entry ∈ ledger, entry.worker ≠ name) :
    fresh.Tells dryRun ledger name where
  jobs job := by simp [fresh, Worker.jobs, job?, Ledger.not_took absent]
  lost := by simp [fresh, Ledger.not_broke absent]
  account := by simp [fresh, Worker.account, standing?]

/-- What others do about other plans does not matter to a worker. -/
theorem Tells.append (tells : worker.Tells dryRun ledger name)
    (others : ∀ entry ∈ entries, entry.worker ≠ name)
    (unrelated : ∀ entry ∈ entries, entry.job ∉ worker.jobs) :
    worker.Tells dryRun (ledger ++ entries) name := by
  have took := Ledger.not_took others
  have broke := Ledger.not_broke others
  refine ⟨?_, ?_, ?_⟩
  · intro job
    rw [tells.jobs job, Ledger.took_append, Ledger.broke_append]
    simp [took job, broke]
  · rw [tells.lost, Ledger.broke_append]
    simp [broke]
  · rintro ⟨job, progress⟩ mem
    have own : job ∈ worker.jobs := map_fst_account dryRun worker ▸ List.mem_map_of_mem mem
    have nothing : Ledger.repliesTo entries job = [] := by
      apply Ledger.repliesTo_eq_nil
      rintro entry noted rfl
      exact unrelated entry noted own
    rw [Ledger.repliesTo_append, nothing, List.append_nil]
    exact tells.account _ mem

/-- A worker that has not broken down stays told of when it notes something. -/
theorem Tells.notes (tells : worker.Tells dryRun ledger name) (distinct : worker.jobs.Nodup)
    (untaken : ∀ job ∈ queue, ∀ entry ∈ ledger, entry.job ≠ job) (intact : worker.state ≠ .lost)
    (notes : Notes dryRun name worker queue entries next rest) :
    next.Tells dryRun (ledger ++ entries) name := by
  have unbroken : ¬ ledger.Broke name := fun broke => intact (tells.lost.mpr broke)
  cases notes with
  | silent same stillIntact =>
      rw [List.append_nil]
      refine ⟨?_, by simp [stillIntact, unbroken], by rw [same]; exact tells.account⟩
      rw [← map_fst_account dryRun, same, map_fst_account]
      exact tells.jobs
  | @takes _ job rest first more stillIntact =>
      have nothingYet : ledger.repliesTo job = [] :=
        Ledger.repliesTo_eq_nil (untaken job (first ▸ List.mem_cons_self))
      have jobs : next.jobs = worker.jobs ++ [job] := by
        rw [← map_fst_account dryRun, more, List.map_append, map_fst_account]
        rfl
      refine ⟨?_, by simp [stillIntact, unbroken, Ledger.broke_append], ?_⟩
      · intro each
        rw [jobs, List.mem_append, tells.jobs each, List.mem_singleton]
        simp [Ledger.broke_append, unbroken, eq_comm]
      · intro entry mem
        rw [more] at mem
        rw [Ledger.repliesTo_append, Ledger.repliesTo_singleton]
        rcases List.mem_append.mp mem with old | new
        · simpa [Deed.reply?] using tells.account entry old
        · obtain rfl := List.mem_singleton.mp new
          simp [nothingYet, Deed.reply?, Plan.progressAfter]
  | @hears _ others job attempt reply before after stillIntact =>
      have sameJobs : next.jobs = worker.jobs := by
        rw [← map_fst_account dryRun, ← map_fst_account dryRun worker, after, before]
        simp
      have calling := tells.account (job, .calling attempt) (by simp [before])
      rw [← map_fst_account dryRun, before, List.map_append, List.nodup_append] at distinct
      refine ⟨?_, by simp [stillIntact, unbroken, Ledger.broke_append], ?_⟩
      · intro each
        rw [sameJobs, tells.jobs each]
        simp [Ledger.broke_append]
      · intro entry mem
        rw [after] at mem
        rw [Ledger.repliesTo_append, Ledger.repliesTo_singleton]
        rcases List.mem_append.mp mem with old | new
        · -- The other plans of the worker are not the one that was heard about.
          have ne : job ≠ entry.1 :=
            (distinct.2.2 entry.1 (List.mem_map_of_mem old) job (by simp)).symm
          rw [if_neg ne, List.append_nil]
          exact tells.account entry (by simp [before, old])
        · obtain rfl := List.mem_singleton.mp new
          rw [if_pos rfl]
          exact Plan.progressAfter_append_singleton calling reply
  | @breaksDown job own =>
      have broke : Ledger.Broke (ledger ++ [⟨name, job, .breaksDown⟩]) name := by
        simp [Ledger.broke_append]
      exact ⟨by simp [Worker.jobs, job?, broke], by simp [broke],
        by simp [Worker.account, standing?]⟩

/-- A worker that acts has not broken down. -/
theorem Step.intact (step : Step settings clock id worker place action next nextPlace) :
    worker.state ≠ .lost := by
  have notGone := step.isGone
  intro lost
  simp [Worker.isGone, lost] at notGone

/-- All that a worker notes is about itself, and about the next plan that waits or one of its
own. -/
theorem Notes.of_mem (notes : Notes dryRun name worker queue entries next rest) {entry : Entry}
    (mem : entry ∈ entries) :
    entry.worker = name ∧ (queue = entry.job :: rest ∨ queue = rest ∧ entry.job ∈ worker.jobs) := by
  cases notes with
  | silent => contradiction
  | takes first =>
      obtain rfl := List.mem_singleton.mp mem
      exact ⟨rfl, .inl first⟩
  | hears before =>
      obtain rfl := List.mem_singleton.mp mem
      refine ⟨rfl, .inr ⟨rfl, ?_⟩⟩
      rw [← map_fst_account dryRun, before]
      simp
  | breaksDown own =>
      obtain rfl := List.mem_singleton.mp mem
      exact ⟨rfl, .inr ⟨rfl, own⟩⟩

theorem Notes.mem_queue (notes : Notes dryRun name worker queue entries next rest) {job : Job}
    (waits : job ∈ rest) : job ∈ queue := by
  cases notes with
  | silent | hears | breaksDown => exact waits
  | takes first => exact first ▸ List.mem_cons_of_mem _ waits

/-- A plan that no longer waits was taken. -/
theorem Notes.took_of_queue (notes : Notes dryRun name worker queue entries next rest) {job : Job}
    (waits : job ∈ queue) : job ∈ rest ∨ Ledger.Took entries name job := by
  cases notes with
  | silent | hears | breaksDown => exact .inl waits
  | takes first =>
      rw [first] at waits
      rcases List.mem_cons.mp waits with rfl | later
      · exact .inr (by simp)
      · exact .inl later

/-- The ledger stays orderly when a worker that it tells of notes something. -/
theorem Notes.orderly (notes : Notes dryRun name worker queue entries next rest)
    (orderly : ledger.Orderly) (tells : worker.Tells dryRun ledger name)
    (untaken : ∀ job ∈ queue, ∀ entry ∈ ledger, entry.job ≠ job) :
    Ledger.Orderly (ledger ++ entries) := by
  have took {job : Job} (own : job ∈ worker.jobs) : ledger.Took name job :=
    ((tells.jobs job).mp own).1
  cases notes with
  | silent => simpa using orderly
  | takes first => exact orderly.take (untaken _ (first ▸ List.mem_cons_self)) name
  | hears before =>
      refine orderly.goOn (took ?_) (by simp)
      rw [← map_fst_account dryRun, before]
      simp
  | breaksDown own => exact orderly.goOn (took own) (by simp)

end Worker

namespace Pool

/-- No plan is twice with the workers or in the queue. -/
theorem Sound.nodup {pool : Pool} {concurrency : Nat} (sound : pool.Sound concurrency)
    (rising : pool.batch.jobs.Pairwise fun first second => first.position < second.position) :
    (pool.workers.flatMap Worker.jobs ++ pool.queue).Nodup := by
  obtain ⟨lost, perm, -⟩ := sound.jobs
  have distinct := perm.nodup_iff.mpr (Batch.nodup_of_rising rising)
  exact distinct.sublist (List.sublist_append_left _ _)

theorem Sound.mem_jobs_of_queue {pool : Pool} {concurrency : Nat} (sound : pool.Sound concurrency)
    {job : Job} (waits : job ∈ pool.queue) : job ∈ pool.batch.jobs := by
  obtain ⟨lost, perm, -⟩ := sound.jobs
  exact perm.subset (List.mem_append_left _ (List.mem_append_right _ waits))

/-- The ledger tells how far each worker is with its plans; each plan of the batch was taken or
waits, and nothing was done about a plan that waits. -/
structure Tells (dryRun : Bool) (ledger : Ledger) (pool : Pool) : Prop where
  waiting : ∀ job ∈ pool.queue, ∀ entry ∈ ledger, entry.job ≠ job
  workers : ∀ (number : Nat) (worker : Worker), pool.workers[number]? = some worker →
    worker.Tells dryRun ledger ⟨pool.batch.index, number⟩
  covered : ∀ job ∈ pool.batch.jobs, job ∈ pool.queue ∨
    ∃ number < pool.workers.length, ledger.Took ⟨pool.batch.index, number⟩ job

/-- A batch begins with a ledger in which neither its plans nor its workers are. -/
theorem tells_ofBatch {dryRun : Bool} {ledger : Ledger} {batch : Batch} (concurrency : Nat)
    (untaken : ∀ entry ∈ ledger, entry.job ∉ batch.jobs)
    (absent : ∀ entry ∈ ledger, entry.worker.batch ≠ batch.index) :
    (ofBatch batch concurrency).Tells dryRun ledger where
  waiting := by
    rintro job waits entry noted rfl
    exact untaken entry noted waits
  workers number worker present := by
    obtain ⟨-, rfl⟩ := List.mem_replicate.mp (List.mem_of_getElem? present)
    apply Worker.tells_fresh
    rintro entry noted eq
    exact absent entry noted (congrArg PoolWorker.batch eq)
  covered _ mem := .inl mem

variable {settings : ExecutorSettings} {clock : Duration} {id : WorkerId} {concurrency : Nat}
  {dryRun : Bool} {pool : Pool} {number : Nat} {worker next : Worker}
  {place nextPlace : Workplace} {action : WorkerAction} {ledger entries : Ledger}
  {rest : List Job}

/-- What a worker notes is about plans of the batch at work. -/
theorem Sound.mem_jobs_of_noted (sound : pool.Sound concurrency)
    (present : pool.workers[number]? = some worker)
    (notes : worker.Notes dryRun ⟨pool.batch.index, number⟩ pool.queue entries next rest)
    {entry : Entry} (noted : entry ∈ entries) :
    entry.worker.batch = pool.batch.index ∧ entry.job ∈ pool.batch.jobs := by
  obtain ⟨name, first | ⟨-, own⟩⟩ := notes.of_mem noted
  · exact ⟨congrArg PoolWorker.batch name, sound.mem_jobs_of_queue (first ▸ List.mem_cons_self)⟩
  · exact ⟨congrArg PoolWorker.batch name, sound.mem_jobs (List.mem_of_getElem? present) own⟩

/-- Nobody took a plan that waits. -/
theorem Tells.not_took (tells : pool.Tells dryRun ledger) {job : Job} (waits : job ∈ pool.queue)
    (name : PoolWorker) : ¬ ledger.Took name job := fun took => tells.waiting job waits _ took rfl

/-- What a worker notes is not about a plan that still waits. -/
private theorem Tells.waiting_after (tells : pool.Tells dryRun ledger)
    (distinct : pool.queue.Nodup) (present : pool.workers[number]? = some worker)
    (notes : worker.Notes dryRun ⟨pool.batch.index, number⟩ pool.queue entries next rest) :
    ∀ job ∈ rest, ∀ entry ∈ ledger ++ entries, entry.job ≠ job := by
  rintro job waits entry noted rfl
  have waited := notes.mem_queue waits
  rcases List.mem_append.mp noted with old | new
  · exact tells.waiting _ waited entry old rfl
  · obtain ⟨-, first | ⟨-, own⟩⟩ := notes.of_mem new
    · rw [first, List.nodup_cons] at distinct
      exact distinct.1 waits
    · exact tells.not_took waited _ (((tells.workers number worker present).jobs _).mp own).1

/-- What a worker notes is not about the plans of another one. -/
private theorem Tells.others_after (tells : pool.Tells dryRun ledger) (orderly : ledger.Orderly)
    (present : pool.workers[number]? = some worker)
    (notes : worker.Notes dryRun ⟨pool.batch.index, number⟩ pool.queue entries next rest)
    {other : Nat} {each : Worker} (here : pool.workers[other]? = some each) (ne : number ≠ other) :
    each.Tells dryRun (ledger ++ entries) ⟨pool.batch.index, other⟩ := by
  have eachTells := tells.workers other each here
  apply eachTells.append
  · intro entry noted same
    rw [(notes.of_mem noted).1] at same
    exact ne (congrArg PoolWorker.number same)
  · intro entry noted own
    have took := ((eachTells.jobs _).mp own).1
    obtain ⟨-, first | ⟨-, others⟩⟩ := notes.of_mem noted
    · exact tells.not_took (first ▸ List.mem_cons_self) _ took
    · have otherTook := (((tells.workers number worker present).jobs _).mp others).1
      exact ne (congrArg PoolWorker.number (orderly.taker _ _ _ otherTook took))

/-- A step of a worker is told of by what the worker notes. -/
theorem Tells.withWorker (tells : pool.Tells settings.dryRun ledger) (orderly : ledger.Orderly)
    (sound : pool.Sound concurrency)
    (rising : pool.batch.jobs.Pairwise fun first second => first.position < second.position)
    (present : pool.workers[number]? = some worker)
    (step : Worker.Step settings clock id worker place action next nextPlace)
    (queueEq : place.queue = pool.queue) :
    (pool.withWorker number next nextPlace.queue).Tells settings.dryRun
      (ledger ++ worker.entries settings ⟨pool.batch.index, number⟩ pool.queue action) := by
  have notes := step.notes ⟨pool.batch.index, number⟩
  rw [queueEq] at notes
  generalize worker.entries settings ⟨pool.batch.index, number⟩ pool.queue action = entries at *
  obtain ⟨bound, -⟩ := List.getElem?_eq_some_iff.mp present
  obtain ⟨distinctJobs, distinctQueue, -⟩ := List.nodup_append.mp (sound.nodup rising)
  refine ⟨tells.waiting_after distinctQueue present notes, ?_, ?_⟩
  · intro other each here
    by_cases eq : number = other
    · subst other
      rw [Pool.withWorker, List.getElem?_set_self bound] at here
      obtain rfl := Option.some.inj here
      have ownDistinct : worker.jobs.Nodup :=
        (List.pairwise_flatMap.mp distinctJobs).1 worker (List.mem_of_getElem? present)
      exact (tells.workers number worker present).notes ownDistinct tells.waiting step.intact notes
    · rw [Pool.withWorker, List.getElem?_set_ne eq] at here
      exact tells.others_after orderly present notes here eq
  · intro job mem
    rw [Pool.withWorker, List.length_set]
    rcases tells.covered job mem with waits | ⟨other, bound, took⟩
    · rcases notes.took_of_queue waits with stillWaits | took
      · exact .inl stillWaits
      · exact .inr ⟨number, bound, Ledger.took_append.mpr (.inr took)⟩
    · exact .inr ⟨other, bound, Ledger.took_append.mpr (.inl took)⟩

end Pool

namespace Ledger

/-- What became of a plan of a batch that is over. -/
inductive Fate (ledger : Ledger) (dryRun : Bool) (concurrency : Nat) (batch : Batch) (job : Job) :
    Statuses → Prop
  /-- The worker that took it never broke down: it is as the replies to its own calls say. -/
  | kept {number : Nat} {statuses : Statuses} (took : ledger.Took ⟨batch.index, number⟩ job)
      (intact : ¬ ledger.Broke ⟨batch.index, number⟩)
      (settled : job.plan.progressAfter dryRun (ledger.repliesTo job) = .finished statuses) :
      Fate ledger dryRun concurrency batch job statuses
  /-- The worker that took it broke down, at this plan or at another one. -/
  | lost {number : Nat} (took : ledger.Took ⟨batch.index, number⟩ job)
      (broke : ledger.Broke ⟨batch.index, number⟩) :
      Fate ledger dryRun concurrency batch job job.plan.lostStatuses
  /-- All workers at the batch broke down before one of them took it. -/
  | untaken (untaken : ∀ entry ∈ ledger, entry.job ≠ job)
      (allBroke : ∀ number < min (max concurrency 1) batch.jobs.length,
        ledger.Broke ⟨batch.index, number⟩) :
      Fate ledger dryRun concurrency batch job job.plan.lostStatuses

/-- What is done elsewhere about other plans does not change the fate of a plan. -/
theorem Fate.append {ledger entries : Ledger} {dryRun : Bool} {concurrency : Nat} {batch : Batch}
    {job : Job} {statuses : Statuses} (fate : ledger.Fate dryRun concurrency batch job statuses)
    (elsewhere : ∀ entry ∈ entries, entry.worker.batch ≠ batch.index)
    (others : ∀ entry ∈ entries, entry.job ≠ job) :
    Fate (ledger ++ entries) dryRun concurrency batch job statuses := by
  have broke (number : Nat) :
      Broke (ledger ++ entries) ⟨batch.index, number⟩ ↔ ledger.Broke ⟨batch.index, number⟩ := by
    rw [broke_append, or_iff_left (not_broke ?_)]
    intro entry mem same
    exact elsewhere entry mem (congrArg PoolWorker.batch same)
  cases fate with
  | kept took intact settled =>
      refine .kept (took_append.mpr (.inl took)) (by rwa [broke]) ?_
      rw [repliesTo_append, repliesTo_eq_nil others, List.append_nil]
      exact settled
  | lost took lost => exact .lost (took_append.mpr (.inl took)) ((broke _).mpr lost)
  | untaken untaken allBroke =>
      refine .untaken ?_ fun number bound => (broke number).mpr (allBroke number bound)
      intro entry mem
      exact (List.mem_append.mp mem).elim (untaken entry) (others entry)

end Ledger

namespace Pool

variable {dryRun : Bool} {concurrency : Nat} {pool : Pool} {ledger : Ledger}

/-- Of a plan that is with no worker nothing is reported. -/
private theorem outcomeOf_of_notMem (sound : pool.Sound concurrency)
    (rising : pool.batch.jobs.Pairwise fun first second => first.position < second.position)
    {job : Job} (inBatch : job ∈ pool.batch.jobs) (now : Instant)
    (absent : ∀ worker ∈ pool.workers, job ∉ worker.jobs) :
    pool.outcomeOf now job = lostOutcome now job := by
  have unreported : pool.reported.get? job.position = none := by
    rw [Option.eq_none_iff_forall_ne_some]
    intro outcome found
    obtain ⟨worker, isWorker, done⟩ := (sound.reported_eq_some_iff rising).mp found
    have own : Worker.doneJob (job.position, outcome) ∈ worker.jobs :=
      List.mem_append_left _ (List.mem_map_of_mem done)
    have same := Batch.eq_of_position_eq rising (sound.mem_jobs isWorker own) inBatch rfl
    exact absent worker isWorker (same ▸ own)
  rw [outcomeOf, unreported, Option.getD_none]

/-- A plan that no worker took was left by workers that broke down. -/
private theorem Tells.fate_of_waits (tells : pool.Tells dryRun ledger)
    (sound : pool.Sound concurrency)
    (rising : pool.batch.jobs.Pairwise fun first second => first.position < second.position)
    (isOver : pool.isOver = true) (now : Instant) {job : Job} (waits : job ∈ pool.queue) :
    ledger.Fate dryRun concurrency pool.batch job (pool.outcomeOf now job).statuses := by
  have nobody : ∀ worker ∈ pool.workers, job ∉ worker.jobs := by
    intro worker isWorker own
    obtain ⟨number, here⟩ := List.mem_iff_getElem?.mp isWorker
    exact tells.not_took waits _ (((tells.workers number worker here).jobs job).mp own).1
  rw [outcomeOf_of_notMem sound rising (sound.mem_jobs_of_queue waits) now nobody]
  refine .untaken (tells.waiting job waits) ?_
  intro number bound
  rw [← sound.size] at bound
  have here := List.getElem?_eq_getElem bound
  rw [← (tells.workers number _ here).lost]
  -- A worker that had not broken down would have left nothing in the queue.
  apply Decidable.byContradiction
  intro intact
  rw [sound.queue_of_isOver isOver ⟨_, List.mem_of_getElem? here, intact⟩] at waits
  contradiction

/-- The plans of a worker that broke down are lost. -/
private theorem Tells.fate_of_broke (tells : pool.Tells dryRun ledger) (orderly : ledger.Orderly)
    (sound : pool.Sound concurrency)
    (rising : pool.batch.jobs.Pairwise fun first second => first.position < second.position)
    (now : Instant) {job : Job} (inBatch : job ∈ pool.batch.jobs) {number : Nat}
    (took : ledger.Took ⟨pool.batch.index, number⟩ job)
    (broke : ledger.Broke ⟨pool.batch.index, number⟩) :
    ledger.Fate dryRun concurrency pool.batch job (pool.outcomeOf now job).statuses := by
  have nobody : ∀ worker ∈ pool.workers, job ∉ worker.jobs := by
    intro worker isWorker own
    obtain ⟨other, here⟩ := List.mem_iff_getElem?.mp isWorker
    obtain ⟨otherTook, intact⟩ := ((tells.workers other worker here).jobs job).mp own
    exact intact (orderly.taker _ _ _ took otherTook ▸ broke)
  rw [outcomeOf_of_notMem sound rising inBatch now nobody]
  exact .lost took broke

/-- A worker that did not break down has reported what became of its plans. -/
private theorem Tells.fate_of_intact (tells : pool.Tells dryRun ledger)
    (sound : pool.Sound concurrency)
    (rising : pool.batch.jobs.Pairwise fun first second => first.position < second.position)
    (isOver : pool.isOver = true) (now : Instant) {job : Job} {number : Nat} {worker : Worker}
    (here : pool.workers[number]? = some worker)
    (took : ledger.Took ⟨pool.batch.index, number⟩ job)
    (intact : ¬ ledger.Broke ⟨pool.batch.index, number⟩) :
    ledger.Fate dryRun concurrency pool.batch job (pool.outcomeOf now job).statuses := by
  have workerTells := tells.workers number worker here
  have isWorker := List.mem_of_getElem? here
  have left := left_of_isOver isOver isWorker fun lost => intact (workerTells.lost.mp lost)
  have own := (workerTells.jobs job).mpr ⟨took, intact⟩
  rw [Worker.jobs, Worker.job?, left, Option.toList_none, List.append_nil] at own
  obtain ⟨⟨position, outcome⟩, done, rfl⟩ := List.mem_map.mp own
  have found : pool.reported.get? position = some outcome :=
    (sound.reported_eq_some_iff rising).mpr ⟨worker, isWorker, done⟩
  have settled := workerTells.account (⟨position, outcome.plan⟩, .finished outcome.statuses)
    (List.mem_append_left _ (List.mem_map_of_mem done))
  simp only [outcomeOf, Worker.doneJob, found, Option.getD_some]
  exact .kept took intact settled

/-- When all workers are gone, each plan of the batch has one of the three fates. -/
theorem Tells.fate (tells : pool.Tells dryRun ledger) (orderly : ledger.Orderly)
    (sound : pool.Sound concurrency)
    (rising : pool.batch.jobs.Pairwise fun first second => first.position < second.position)
    (isOver : pool.isOver = true) (now : Instant) {job : Job} (inBatch : job ∈ pool.batch.jobs) :
    ledger.Fate dryRun concurrency pool.batch job (pool.outcomeOf now job).statuses := by
  rcases tells.covered job inBatch with waits | ⟨number, bound, took⟩
  · exact tells.fate_of_waits sound rising isOver now waits
  · by_cases broke : ledger.Broke ⟨pool.batch.index, number⟩
    · exact tells.fate_of_broke orderly sound rising now inBatch took broke
    · have here := List.getElem?_eq_getElem bound
      exact tells.fate_of_intact sound rising isOver now here took broke

end Pool

end PodSizing
