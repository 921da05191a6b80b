import PodSizing.Proofs.Executor.Ledger

/-!
# The calls for one plan

A worker calls the runtime once with all changes of its plan, and at most once more, with what the
first reply did not refuse.  `Worker.Serves` is the work of a worker, whatever happens around it,
with the calls that end and the reply to each.  `Plan.Settles` says the same of a plan alone, and
`Plan.Protocol` which calls there are and what becomes of each dimension.
-/

namespace PodSizing

/-- A call of the runtime that is over, with the reply to it. -/
structure Exchange where
  request : ResizeRequest
  reply : Reply
  deriving DecidableEq

/-- The exchanges in which a plan gets from some progress to its statuses. -/
inductive Plan.Settles (plan : Plan) : Progress → List Exchange → Statuses → Prop
  | finished (statuses : Statuses) : Settles plan (.finished statuses) [] statuses
  | heard {attempt : Attempt} {reply : Reply} {more : List Exchange} {statuses : Statuses}
      (rest : Settles plan (plan.proceed attempt reply) more statuses) :
      Settles plan (.calling attempt) (⟨plan.requestOf attempt, reply⟩ :: more) statuses

namespace Worker

/-- The exchange that a worker ends when it acts. -/
def exchange? (settings : ExecutorSettings) (id : WorkerId) (worker : Worker) :
    WorkerAction → Option Exchange
  | .answer reply _ => (worker.currentCall? id).map fun call => ⟨call.request, reply⟩
  | .expire _ =>
      (worker.currentCall? id).map fun call =>
        ⟨call.request, .error (.timeout settings.applyTimeout)⟩
  | _ => none

/-- The steps of a worker, one after the other, with the exchanges that they end.  Between two
steps time may pass, and the workplace may change in any way. -/
inductive Serves (settings : ExecutorSettings) (id : WorkerId) :
    Worker → List Exchange → Worker → Prop
  | refl (worker : Worker) : Serves settings id worker [] worker
  | head {clock : Duration} {worker next last : Worker} {place nextPlace : Workplace}
      {action : WorkerAction} {exchanges : List Exchange}
      (step : Step settings clock id worker place action next nextPlace)
      (rest : Serves settings id next exchanges last) :
      Serves settings id worker ((worker.exchange? settings id action).toList ++ exchanges) last

variable {settings : ExecutorSettings} {id : WorkerId} {worker last : Worker}
  {exchanges : List Exchange}

/-- A call that ends is an exchange. -/
private theorem exchange?_of_ends {clock since : Duration} {action : WorkerAction} {reply : Reply}
    {now : Instant} {job : Job} {lock : Nat} {attempt : Attempt} {done : List (Nat × Outcome)}
    (ends : CallEnds settings clock since action reply now) :
    exchange? settings id ⟨.calling job lock attempt since, done⟩ action =
      some ⟨job.plan.requestOf attempt, reply⟩ := by
  cases ends <;> rfl

/-- A worker that has not broken down still has all its plans. -/
theorem Serves.length_jobs_le (serves : Serves settings id worker exchanges last)
    (intact : last.state ≠ .lost) : worker.jobs.length ≤ last.jobs.length := by
  induction serves with
  | refl => exact Nat.le_refl _
  | head step rest ih =>
      rcases step.jobs_cases with ⟨-, jobs⟩ | ⟨job, -, jobs⟩ | ⟨-, rfl⟩
      · exact jobs ▸ ih intact
      · have more := ih intact
        rw [jobs, List.length_append] at more
        omega
      · cases rest with
        | refl => exact absurd rfl intact
        | head step => exact absurd rfl step.intact

/-- A worker that is free again with no further outcome has done nothing. -/
theorem Serves.of_free {before after : List (Nat × Outcome)}
    (serves : Serves settings id ⟨.free, before⟩ exchanges ⟨.free, after⟩)
    (length : after.length ≤ before.length) : exchanges = [] ∧ before = after := by
  cases serves with
  | refl => exact ⟨rfl, rfl⟩
  | head step rest =>
      exfalso
      cases step with
      | leave =>
          cases rest with
          | head step => simpa [isGone] using step.isGone
      | take =>
          have more := rest.length_jobs_le (by simp)
          simp only [jobs, job?, List.length_append, List.length_map, Option.length_toList] at more
          simp at more
          omega

/-- A worker that is free again after the plan that it was at has settled this plan. -/
theorem Serves.settles {job : Job} {progress : Progress} {entry : Nat × Outcome}
    (serves : Serves settings id worker exchanges last)
    (standing : worker.standing? settings.dryRun = some (job, progress))
    (ends : last = ⟨.free, worker.done ++ [entry]⟩) :
    doneJob entry = job ∧ job.plan.Settles progress exchanges entry.2.statuses := by
  induction serves generalizing progress with
  | refl worker =>
      rw [ends] at standing
      contradiction
  | head step rest ih =>
      cases step with
      | leave | take => contradiction
      | skip now nothing =>
          cases standing
          obtain ⟨rfl, same⟩ := (ends ▸ rest).of_free (by simp)
          obtain rfl := List.singleton_inj.mp (List.append_cancel_left same)
          exact ⟨rfl, nothing ▸ .finished _⟩
      | lookUp now something =>
          cases standing
          rw [something]
          exact ih rfl ends
      | enqueue =>
          cases standing
          exact ih rfl ends
      | start held =>
          cases standing
          exact ih rfl ends
      | finish callEnds settled =>
          cases standing
          obtain ⟨rfl, same⟩ := (ends ▸ rest).of_free (by simp)
          obtain rfl := List.singleton_inj.mp (List.append_cancel_left same)
          rw [exchange?_of_ends callEnds]
          exact ⟨rfl, .heard (settled ▸ .finished _)⟩
      | retry callEnds again =>
          cases standing
          obtain ⟨isJob, settles⟩ := ih rfl ends
          rw [exchange?_of_ends callEnds]
          exact ⟨isJob, .heard (again ▸ settles)⟩
      | breakDown =>
          cases rest with
          | refl => simp at ends
          | head step => exact absurd rfl step.intact

/-- What a worker hears is up to the runtime: whatever the replies are, it serves a plan with
them. -/
theorem exists_serves (settings : ExecutorSettings) (id : WorkerId) (job : Job)
    (done : List (Nat × Outcome)) (replies : Nat → Reply) :
    ∃ exchanges outcome, Serves settings id ⟨.opening job, done⟩ exchanges
        ⟨.free, done ++ [(job.position, outcome)]⟩ ∧
      exchanges.map Exchange.reply = (List.range exchanges.length).map replies := by
  let idle : Workplace := ⟨[], .empty, [], []⟩
  let held : Workplace := { idle with locks := ⟨[⟨[id], [id]⟩], []⟩ }
  cases begun : job.plan.begin settings.dryRun with
  | finished statuses =>
      have skips : Step settings .zero id ⟨.opening job, done⟩ idle (.lookUp default)
          ⟨.free, done ++ [(job.position, ⟨job.plan, statuses, (default : Instant)⟩)]⟩ idle :=
        .skip default begun
      exact ⟨_, _, .head skips (.refl _), rfl⟩
  | calling attempt =>
      obtain ⟨rfl, -⟩ := Plan.begin_eq_calling begun
      have isHeld : held.locks.isHeldBy 0 id = true := by
        simp [held, PodLocks.isHeldBy, PodLock.isHeldBy]
      have looksUp : Step settings .zero id ⟨.opening job, done⟩ idle (.lookUp default)
          ⟨.queueing job 0, done⟩ { idle with locks := (idle.locks.lookUp _ id).2 } :=
        .lookUp default begun
      have queues : Step settings .zero id ⟨.queueing job 0, done⟩ idle .enqueue
          ⟨.waiting job 0, done⟩ { idle with locks := idle.locks.enqueue 0 id } := .enqueue
      have starts : Step settings .zero id ⟨.waiting job 0, done⟩ held .start
          ⟨.calling job 0 .whole .zero, done⟩ (held.withCall id job .whole) := .start isHeld
      have begins {exchanges : List Exchange} {last : Worker}
          (serves : Serves settings id ⟨.calling job 0 .whole .zero, done⟩ exchanges last) :
          Serves settings id ⟨.opening job, done⟩ exchanges last :=
        .head looksUp (.head queues (.head starts serves))
      have ends {attempt : Attempt} {reply : Reply} {statuses : Statuses}
          (settled : job.plan.proceed attempt reply = .finished statuses) :
          Serves settings id ⟨.calling job 0 attempt .zero, done⟩
            [⟨job.plan.requestOf attempt, reply⟩]
            ⟨.free, done ++ [(job.position, ⟨job.plan, statuses, (default : Instant)⟩)]⟩ := by
        have finishes : Step settings .zero id ⟨.calling job 0 attempt .zero, done⟩ held
            (.answer reply default) _ _ := .finish (.answered reply default) settled
        exact .head finishes (.refl _)
      cases settled : job.plan.proceed .whole (replies 0) with
      | finished statuses => exact ⟨_, _, begins (ends settled), rfl⟩
      | calling next =>
          obtain ⟨-, refused, rfl⟩ := Plan.proceed_eq_calling settled
          obtain ⟨statuses, again⟩ := job.plan.proceed_reduced refused (replies 1)
          have retries : Step settings .zero id ⟨.calling job 0 .whole .zero, done⟩ held
              (.answer (replies 0) default) _ _ := .retry (.answered (replies 0) default) settled
          exact ⟨_, _, begins (.head retries (ends again)), rfl⟩

end Worker

/-- The last reply to a call that was about a dimension. -/
def lastReply? (exchanges : List Exchange) (dimension : Dimension) : Option Reply :=
  ((exchanges.filter fun exchange => dimension ∈ exchange.request.dimensions).getLast?).map
    Exchange.reply

@[simp]
theorem lastReply?_nil (dimension : Dimension) : lastReply? [] dimension = none := rfl

theorem lastReply?_append_singleton (exchanges : List Exchange) (last : Exchange)
    (dimension : Dimension) :
    lastReply? (exchanges ++ [last]) dimension =
      if dimension ∈ last.request.dimensions then some last.reply
      else lastReply? exchanges dimension := by
  by_cases about : dimension ∈ last.request.dimensions
  · simp [lastReply?, List.filter_append, about]
  · simp [lastReply?, List.filter_append, about]

namespace Plan

variable {plan : Plan} {exchanges : List Exchange} {statuses : Statuses} {dimension : Dimension}

theorem mem_changing_iff_verdict :
    dimension ∈ plan.changing ↔ (plan.decisions.get dimension).verdict ≠ .noChange := by
  rw [mem_changing, Decision.isChange, bne_iff_ne]

theorem mem_refused {named : List Dimension} :
    dimension ∈ plan.refused named ↔ dimension ∈ plan.changing ∧ dimension ∈ named ∧
      (plan.decisions.get dimension).target < (plan.decisions.get dimension).current := by
  simp [refused, Decision.isDecrease]

theorem mem_attempted_reduced {refused : List Dimension} :
    dimension ∈ plan.attempted (.reduced refused) ↔
      dimension ∈ plan.changing ∧ dimension ∉ refused := by
  simp [attempted]

/-- The first reply refuses to lower a dimension: it rejects it by name, and the plan lowers it. -/
def Refused (plan : Plan) (exchanges : List Exchange) (dimension : Dimension) : Prop :=
  (plan.decisions.get dimension).verdict ≠ .noChange ∧
    (plan.decisions.get dimension).target < (plan.decisions.get dimension).current ∧
    ∃ request named reason more,
      exchanges = ⟨request, .error (.rejected named reason)⟩ :: more ∧ dimension ∈ named

theorem Refused.mem_changing (isRefused : plan.Refused exchanges dimension) :
    dimension ∈ plan.changing :=
  mem_changing_iff_verdict.mpr isRefused.1

theorem changing_ne_nil_of_refused (plan : Plan) {named : List Dimension}
    (some_refused : plan.refused named ≠ []) : plan.changing ≠ [] := by
  obtain ⟨dimension, isRefused⟩ := List.exists_mem_of_ne_nil _ some_refused
  exact List.ne_nil_of_mem (plan.refused_subset named isRefused)

theorem refused_of_rejected {request : ResizeRequest} {named : List Dimension} {reason : String}
    {more : List Exchange} :
    plan.Refused (⟨request, .error (.rejected named reason)⟩ :: more) dimension ↔
      dimension ∈ plan.refused named := by
  rw [mem_refused, mem_changing_iff_verdict, Refused]
  constructor
  · rintro ⟨changes, lowers, _, _, _, _, ⟨⟩, isNamed⟩
    exact ⟨changes, isNamed, lowers⟩
  · rintro ⟨changes, isNamed, lowers⟩
    exact ⟨changes, lowers, _, _, _, _, rfl, isNamed⟩

theorem not_refused_of_error {request : ResizeRequest} {error : RuntimeError}
    {more : List Exchange}
    (noneRefused : ∀ named text, error = .rejected named text → plan.refused named = []) :
    ¬ plan.Refused (⟨request, .error error⟩ :: more) dimension := by
  intro isRefused
  obtain ⟨-, -, _, named, text, _, ⟨⟩, -⟩ := id isRefused
  rw [refused_of_rejected, noneRefused named text rfl] at isRefused
  contradiction

theorem not_refused_of_ok {request : ResizeRequest} {more : List Exchange} :
    ¬ plan.Refused (⟨request, .ok ()⟩ :: more) dimension := by
  rintro ⟨-, -, _, _, _, _, ⟨⟩, -⟩

/-- The calls for a plan that is really applied, and what becomes of each dimension. -/
structure Protocol (plan : Plan) (exchanges : List Exchange) (statuses : Statuses) : Prop where
  /-- There is no call without a change. -/
  uncalled : exchanges = [] ↔ ∀ dimension, (plan.decisions.get dimension).verdict = .noChange
  atMostTwo : exchanges.length ≤ 2
  /-- The first call is about all changes. -/
  first : ∀ call ∈ exchanges.head?, call.request = plan.request call.request.dimensions ∧
    call.request.dimensions.Sublist [.cpu, .memory] ∧
    ∀ dimension, dimension ∈ call.request.dimensions ↔
      (plan.decisions.get dimension).verdict ≠ .noChange
  /-- There is a second call when some of the changes were refused and some were not. -/
  again : exchanges.length = 2 ↔ (∃ dimension, plan.Refused exchanges dimension) ∧
    ∃ dimension, (plan.decisions.get dimension).verdict ≠ .noChange ∧
      ¬ plan.Refused exchanges dimension
  /-- The second call is about what was not refused, something and not all. -/
  second : ∀ first second, exchanges = [first, second] →
    second.request = plan.request second.request.dimensions ∧
    second.request.dimensions.Sublist first.request.dimensions ∧
    second.request.dimensions ≠ [] ∧ second.request.dimensions ≠ first.request.dimensions ∧
    ∀ dimension, dimension ∈ second.request.dimensions ↔
      dimension ∈ first.request.dimensions ∧ ¬ plan.Refused exchanges dimension
  applied : ∀ dimension, statuses.get dimension = .applied ↔
    lastReply? exchanges dimension = some (.ok ())
  refused : ∀ dimension, statuses.get dimension = .skipped .decreaseNotPermitted ↔
    plan.Refused exchanges dimension
  unchanged : ∀ dimension, statuses.get dimension = .skipped .noChange ↔
    (plan.decisions.get dimension).verdict = .noChange
  /-- No call is about a dimension that the plan does not change. -/
  untouched : ∀ dimension, (plan.decisions.get dimension).verdict = .noChange →
    ∀ exchange ∈ exchanges, dimension ∉ exchange.request.dimensions
  failed : ∀ dimension, (∃ reason, statuses.get dimension = .failed reason) ↔
    (plan.decisions.get dimension).verdict ≠ .noChange ∧ ¬ plan.Refused exchanges dimension ∧
      lastReply? exchanges dimension ≠ some (.ok ())

/-- The courses that the application of a plan can take. -/
inductive Course (plan : Plan) : List Exchange → Statuses → Prop
  | idle (nothing : plan.changing = []) : Course plan [] .unchanged
  | accepted (something : plan.changing ≠ []) :
      Course plan [⟨plan.request plan.changing, .ok ()⟩] (plan.allChanging .applied)
  | failed (something : plan.changing ≠ []) {error : RuntimeError} (reason : String)
      (noneRefused : ∀ named text, error = .rejected named text → plan.refused named = []) :
      Course plan [⟨plan.request plan.changing, .error error⟩] (plan.allChanging (.failed reason))
  | refused {named : List Dimension} {reason : String} (some_refused : plan.refused named ≠ [])
      (allRefused : plan.attempted (.reduced (plan.refused named)) = []) :
      Course plan [⟨plan.request plan.changing, .error (.rejected named reason)⟩]
        (Statuses.unchanged.setAll (plan.refused named) (.skipped .decreaseNotPermitted))
  | retried {named : List Dimension} {reason : String} (some_refused : plan.refused named ≠ [])
      (some_left : plan.attempted (.reduced (plan.refused named)) ≠ []) {reply : Reply}
      {status : Status} (settled : reply = .ok () ∧ status = .applied ∨
        ∃ error reason, reply = .error error ∧ status = .failed reason) :
      Course plan
        [⟨plan.request plan.changing, .error (.rejected named reason)⟩,
          ⟨plan.request (plan.attempted (.reduced (plan.refused named))), reply⟩]
        (plan.apartFrom (plan.refused named) status)

/-- A plan that is really applied takes one of the courses. -/
theorem Settles.course (settles : plan.Settles (plan.begin false) exchanges statuses) :
    plan.Course exchanges statuses := by
  by_cases nothing : plan.changing = []
  · simp only [begin, nothing, List.isEmpty_nil, if_pos] at settles
    cases settles
    exact .idle nothing
  · have begun : plan.begin false = .calling .whole := by simp [begin, nothing]
    rw [begun] at settles
    cases settles with
    | @heard _ reply _ _ rest =>
        cases reply with
        | ok =>
            cases rest
            exact .accepted nothing
        | error error =>
            cases error with
            | failed reason =>
                cases rest
                exact .failed nothing _ (by simp)
            | timeout limit =>
                cases rest
                exact .failed nothing _ (by simp)
            | rejected named reason =>
                simp only [proceed, List.isEmpty_iff] at rest
                split at rest
                · rename_i none_refused
                  cases rest
                  exact .failed nothing _ (by rintro _ _ ⟨⟩; exact none_refused)
                · rename_i some_refused
                  split at rest
                  · rename_i allRefused
                    cases rest
                    exact .refused some_refused allRefused
                  · rename_i some_left
                    cases rest with
                    | @heard _ second _ _ last =>
                        cases second with
                        | ok =>
                            cases last
                            exact .retried some_refused some_left (.inl ⟨rfl, rfl⟩)
                        | error error =>
                            cases last
                            exact .retried some_refused some_left (.inr ⟨_, _, rfl, rfl⟩)

/-- What becomes of a dimension in a course. -/
inductive Fate (plan : Plan) (exchanges : List Exchange) (dimension : Dimension) : Status → Prop
  | unchanged (same : dimension ∉ plan.changing) (permitted : ¬ plan.Refused exchanges dimension)
      (unasked : lastReply? exchanges dimension = none) :
      Fate plan exchanges dimension (.skipped .noChange)
  | refused (changes : dimension ∈ plan.changing) (isRefused : plan.Refused exchanges dimension)
      (unsuccessful : lastReply? exchanges dimension ≠ some (.ok ())) :
      Fate plan exchanges dimension (.skipped .decreaseNotPermitted)
  | applied (changes : dimension ∈ plan.changing)
      (permitted : ¬ plan.Refused exchanges dimension)
      (successful : lastReply? exchanges dimension = some (.ok ())) :
      Fate plan exchanges dimension .applied
  | failed {reason : String} (changes : dimension ∈ plan.changing)
      (permitted : ¬ plan.Refused exchanges dimension)
      (unsuccessful : lastReply? exchanges dimension ≠ some (.ok ())) :
      Fate plan exchanges dimension (.failed reason)

/-- The statuses tell the fates apart. -/
theorem Fate.told_apart {status : Status} (fate : plan.Fate exchanges dimension status) :
    (status = .applied ↔ lastReply? exchanges dimension = some (.ok ())) ∧
      (status = .skipped .decreaseNotPermitted ↔ plan.Refused exchanges dimension) ∧
      (status = .skipped .noChange ↔ dimension ∉ plan.changing) ∧
      ((∃ reason, status = .failed reason) ↔ dimension ∈ plan.changing ∧
        ¬ plan.Refused exchanges dimension ∧
        lastReply? exchanges dimension ≠ some (.ok ())) := by
  cases fate with
  | unchanged same permitted unasked => simp [same, permitted, unasked]
  | refused changes isRefused unsuccessful => simp [changes, isRefused, unsuccessful]
  | applied changes permitted successful => simp [changes, permitted, successful]
  | failed changes permitted unsuccessful => simp [changes, permitted, unsuccessful]

private theorem lastReply?_single (dimensions : List Dimension) (reply : Reply)
    (dimension : Dimension) :
    lastReply? [⟨plan.request dimensions, reply⟩] dimension =
      if dimension ∈ dimensions then some reply else none := by
  have last := lastReply?_append_singleton [] ⟨plan.request dimensions, reply⟩ dimension
  simpa using last

theorem Course.fate (course : plan.Course exchanges statuses) (dimension : Dimension) :
    plan.Fate exchanges dimension (statuses.get dimension) := by
  cases course with
  | idle nothing =>
      rw [get_unchanged]
      exact .unchanged (by simp [nothing]) (by simp [Refused]) rfl
  | accepted something =>
      rw [allChanging, Statuses.get_setAll, get_unchanged]
      split
      · rename_i changes
        exact .applied changes not_refused_of_ok (by rw [lastReply?_single, if_pos changes])
      · rename_i same
        exact .unchanged same (mt Refused.mem_changing same)
          (by rw [lastReply?_single, if_neg same])
  | failed something reason noneRefused =>
      rw [allChanging, Statuses.get_setAll, get_unchanged]
      split
      · rename_i changes
        exact .failed changes (not_refused_of_error noneRefused)
          (by simp [lastReply?_single, changes])
      · rename_i same
        exact .unchanged same (mt Refused.mem_changing same)
          (by rw [lastReply?_single, if_neg same])
  | refused some_refused allRefused =>
      rw [Statuses.get_setAll, get_unchanged]
      split
      · rename_i isRefused
        have changes := plan.refused_subset _ isRefused
        exact .refused changes (refused_of_rejected.mpr isRefused)
          (by simp [lastReply?_single, changes])
      · rename_i notRefused
        have same : dimension ∉ plan.changing := fun changes =>
          List.ne_nil_of_mem (mem_attempted_reduced.mpr ⟨changes, notRefused⟩) allRefused
        exact .unchanged same (mt Refused.mem_changing same)
          (by rw [lastReply?_single, if_neg same])
  | @retried named reason some_refused some_left reply status settled =>
      have last := lastReply?_append_singleton
        [⟨plan.request plan.changing, .error (.rejected named reason)⟩]
        ⟨plan.request (plan.attempted (.reduced (plan.refused named))), reply⟩ dimension
      rw [List.singleton_append, lastReply?_single, ResizeRequest.dimensions_request] at last
      rw [apartFrom, Statuses.get_setAll, Statuses.get_setAll, get_unchanged]
      split
      · rename_i isLeft
        obtain ⟨changes, notRefused⟩ := mem_attempted_reduced.mp isLeft
        rw [if_pos isLeft] at last
        rcases settled with ⟨rfl, rfl⟩ | ⟨error, text, rfl, rfl⟩
        · exact .applied changes (refused_of_rejected.not.mpr notRefused) last
        · exact .failed changes (refused_of_rejected.not.mpr notRefused) (by simp [last])
      · rename_i notLeft
        rw [if_neg notLeft] at last
        split
        · rename_i isRefused
          have changes := plan.refused_subset _ isRefused
          rw [if_pos changes] at last
          exact .refused changes (refused_of_rejected.mpr isRefused) (by simp [last])
        · rename_i notRefused
          have same : dimension ∉ plan.changing := fun changes =>
            notLeft (mem_attempted_reduced.mpr ⟨changes, notRefused⟩)
          exact .unchanged same (mt Refused.mem_changing same) (by rw [last, if_neg same])

/-- Every course keeps to the protocol. -/
theorem Course.protocol (course : plan.Course exchanges statuses) :
    plan.Protocol exchanges statuses where
  uncalled := by
    have nothing_iff : plan.changing = [] ↔
        ∀ dimension, (plan.decisions.get dimension).verdict = .noChange := by
      simp [List.eq_nil_iff_forall_not_mem, mem_changing_iff_verdict]
    rw [← nothing_iff]
    cases course with
    | idle nothing => simp [nothing]
    | accepted something => simp [something]
    | failed something => simp [something]
    | refused some_refused => simp [plan.changing_ne_nil_of_refused some_refused]
    | retried some_refused => simp [plan.changing_ne_nil_of_refused some_refused]
  atMostTwo := by cases course <;> simp
  first := by
    have inOrder : plan.changing.Sublist [.cpu, .memory] := List.filter_sublist
    cases course with
    | idle => simp
    | _ => simp [inOrder, mem_changing_iff_verdict]
  again := by
    simp only [← mem_changing_iff_verdict]
    cases course with
    | idle => simp [Refused]
    | accepted => simp [not_refused_of_ok]
    | failed something reason noneRefused => simp [not_refused_of_error noneRefused]
    | refused some_refused allRefused =>
        simp only [List.eq_nil_iff_forall_not_mem, mem_attempted_reduced] at allRefused
        simpa [refused_of_rejected] using fun _ _ => allRefused
    | retried some_refused some_left =>
        obtain ⟨refused, isRefused⟩ := List.exists_mem_of_ne_nil _ some_refused
        obtain ⟨left, isLeft⟩ := List.exists_mem_of_ne_nil _ some_left
        simp only [refused_of_rejected, ← mem_attempted_reduced]
        exact ⟨fun _ => ⟨⟨refused, isRefused⟩, left, isLeft⟩, fun _ => rfl⟩
  second := by
    rintro first second two
    cases course with
    | idle | accepted | failed | refused => cases two
    | @retried named reason some_refused some_left =>
        cases two
        simp only [ResizeRequest.dimensions_request, refused_of_rejected, mem_attempted_reduced]
        refine ⟨trivial, List.filter_sublist, some_left, ?_, fun _ => trivial⟩
        intro all
        obtain ⟨refused, isRefused⟩ := List.exists_mem_of_ne_nil _ some_refused
        have stays := all ▸ plan.refused_subset named isRefused
        exact (mem_attempted_reduced.mp stays).2 isRefused
  applied dimension := (course.fate dimension).told_apart.1
  refused dimension := (course.fate dimension).told_apart.2.1
  unchanged dimension := by
    rw [(course.fate dimension).told_apart.2.2.1, mem_changing_iff_verdict, Decidable.not_not]
  untouched := by
    intro dimension same
    have notChanging : dimension ∉ plan.changing := by simp [mem_changing_iff_verdict, same]
    cases course with
    | idle => simp
    | retried =>
        simp [notChanging, mem_attempted_reduced]
    | _ => simp [notChanging]
  failed dimension := by
    rw [(course.fate dimension).told_apart.2.2.2, mem_changing_iff_verdict]

end Plan

namespace Worker

/-- Outside a dry run a worker can serve a plan with any replies, and whenever it is free again
after a plan, with one more outcome, this is the plan's, and the calls and the statuses keep to the
protocol: at most two calls, the second one about what the first reply did not refuse, and each
dimension with the status that the last reply about it determines. -/
theorem plan_called_twice_at_most {settings : ExecutorSettings} (real : settings.dryRun = false)
    (id : WorkerId) (job : Job) (done : List (Nat × Outcome)) :
    (∀ replies : Nat → Reply, ∃ exchanges outcome,
      Serves settings id ⟨.opening job, done⟩ exchanges
          ⟨.free, done ++ [(job.position, outcome)]⟩ ∧
        exchanges.map Exchange.reply = (List.range exchanges.length).map replies) ∧
    ∀ exchanges position outcome,
      Serves settings id ⟨.opening job, done⟩ exchanges ⟨.free, done ++ [(position, outcome)]⟩ →
        position = job.position ∧ outcome.plan = job.plan ∧
          job.plan.Protocol exchanges outcome.statuses := by
  refine ⟨exists_serves settings id job done, ?_⟩
  intro exchanges position outcome serves
  obtain ⟨rfl, settles⟩ := serves.settles rfl rfl
  rw [real] at settles
  exact ⟨rfl, rfl, settles.course.protocol⟩

/-- The memory may not come down, and the second call, for the CPU alone, is not answered in
time. -/
theorem plan_called_twice_at_most_refused_and_late :
    ∃ first second outcome,
      Serves .default ⟨0, 0⟩
        ⟨.opening ⟨0, .ofTargets ⟨⟨"default", "web-0"⟩, "app"⟩ ⟨1000, 1000⟩ ⟨1500, 600⟩⟩, []⟩
        [first, second] ⟨.free, [(0, outcome)]⟩ ∧
      .cpu ∈ first.request.dimensions ∧ .memory ∈ first.request.dimensions ∧
      .cpu ∈ second.request.dimensions ∧ .memory ∉ second.request.dimensions ∧
      outcome.statuses.get .memory = .skipped .decreaseNotPermitted ∧
      ∃ reason, outcome.statuses.get .cpu = .failed reason := by
  let plan : Plan := .ofTargets ⟨⟨"default", "web-0"⟩, "app"⟩ ⟨1000, 1000⟩ ⟨1500, 600⟩
  let refusal : Reply := .error (.rejected [.memory, .memory] "limits cannot be decreased")
  let tooLate : Reply := .error (.timeout (.ofSeconds 10))
  have notDry : ExecutorSettings.default.dryRun = false := rfl
  obtain ⟨possible, keeps⟩ := plan_called_twice_at_most notDry ⟨0, 0⟩ ⟨0, plan⟩ []
  obtain ⟨exchanges, outcome, serves, heard⟩ :=
    possible fun call => if call = 0 then refusal else tooLate
  obtain ⟨-, -, protocol⟩ := keeps exchanges 0 outcome serves
  have cpuChanges : (plan.decisions.get .cpu).verdict ≠ .noChange := by decide
  have memoryChanges : (plan.decisions.get .memory).verdict ≠ .noChange := by decide
  have cpuStays : ¬ plan.Refused exchanges .cpu := fun refused => absurd refused.2.1 (by decide)
  have memoryRefused : plan.Refused exchanges .memory := by
    cases exchanges with
    | nil => exact absurd (protocol.uncalled.mp rfl .cpu) cpuChanges
    | cons first rest =>
        obtain ⟨request, reply⟩ := first
        rw [List.map_cons, List.length_cons, List.range_succ_eq_map, List.map_cons,
          List.cons.injEq] at heard
        obtain rfl : reply = refusal := heard.1
        exact ⟨memoryChanges, by decide, request, _, _, rest, rfl, by decide⟩
  have two := protocol.again.mpr ⟨⟨.memory, memoryRefused⟩, .cpu, cpuChanges, cpuStays⟩
  obtain ⟨first, second, rfl⟩ : ∃ first second, exchanges = [first, second] :=
    match exchanges, two with
    | [first, second], _ => ⟨first, second, rfl⟩
  obtain ⟨-, -, all⟩ := protocol.first first rfl
  obtain ⟨-, -, -, -, left⟩ := protocol.second first second rfl
  have cpuLeft := (left .cpu).mpr ⟨(all .cpu).mpr cpuChanges, cpuStays⟩
  refine ⟨first, second, outcome, serves, (all .cpu).mpr cpuChanges,
    (all .memory).mpr memoryChanges, cpuLeft,
    fun again => ((left .memory).mp again).2 memoryRefused,
    (protocol.refused .memory).mpr memoryRefused, (protocol.failed .cpu).mpr
      ⟨cpuChanges, cpuStays, ?_⟩⟩
  obtain ⟨-, late⟩ : first.reply = refusal ∧ second.reply = tooLate := by
    simpa [List.range_succ_eq_map] using heard
  have last := lastReply?_append_singleton [first] second .cpu
  rw [if_pos cpuLeft, late, List.singleton_append] at last
  rw [last]
  decide

end Worker

end PodSizing
