import PodSizing.Executor.Worker

/-!
# The steps of a worker

`Worker.Step` says what a worker can do, with one constructor for each thing that can happen, and
`Worker.act` gives exactly these steps.
-/

namespace PodSizing

/-- A call that has been running since the given time ends with a reply: the runtime's, or that
of a caller who has waited for too long. -/
inductive CallEnds (settings : ExecutorSettings) (clock since : Duration) :
    WorkerAction → Reply → Instant → Prop
  | answered (reply : Reply) (now : Instant) :
      CallEnds settings clock since (.answer reply now) reply now
  | expired (now : Instant) (late : since + settings.applyTimeout ≤ clock) :
      CallEnds settings clock since (.expire now) (.error (.timeout settings.applyTimeout)) now

namespace Workplace

/-- The workplace after a call was made. -/
def withCall (place : Workplace) (id : WorkerId) (job : Job) (attempt : Attempt) : Workplace :=
  { place with calls := place.calls ++ [⟨id, job.position, job.plan.requestOf attempt⟩] }

/-- The workplace after a reply was told of. -/
def withReply (place : Workplace) (job : Job) (attempt : Attempt) (reply : Reply) : Workplace :=
  { place with events := place.events ++ job.plan.proceedEvents attempt reply }

end Workplace

namespace Worker

/-- What a worker can do, and what becomes of it and of its workplace. -/
inductive Step (settings : ExecutorSettings) (clock : Duration) (id : WorkerId) :
    Worker → Workplace → WorkerAction → Worker → Workplace → Prop
  | leave {done : List (Nat × Outcome)} {place : Workplace} (none_left : place.queue = []) :
      Step settings clock id ⟨.free, done⟩ place .take ⟨.left, done⟩ place
  | take {done : List (Nat × Outcome)} {place : Workplace} {job : Job} {rest : List Job}
      (first : place.queue = job :: rest) :
      Step settings clock id ⟨.free, done⟩ place .take ⟨.opening job, done⟩
        { place with queue := rest }
  | skip {done : List (Nat × Outcome)} {place : Workplace} {job : Job} {statuses : Statuses}
      (now : Instant) (nothing : job.plan.begin settings.dryRun = .finished statuses) :
      Step settings clock id ⟨.opening job, done⟩ place (.lookUp now)
        ⟨.free, done ++ [(job.position, ⟨job.plan, statuses, now⟩)]⟩ place
  | lookUp {done : List (Nat × Outcome)} {place : Workplace} {job : Job} (now : Instant)
      (something : job.plan.begin settings.dryRun = .calling .whole) :
      Step settings clock id ⟨.opening job, done⟩ place (.lookUp now)
        ⟨.queueing job (place.locks.lookUp job.plan.container.pod id).1, done⟩
        { place with locks := (place.locks.lookUp job.plan.container.pod id).2 }
  | enqueue {done : List (Nat × Outcome)} {place : Workplace} {job : Job} {lock : Nat} :
      Step settings clock id ⟨.queueing job lock, done⟩ place .enqueue ⟨.waiting job lock, done⟩
        { place with locks := place.locks.enqueue lock id }
  | start {done : List (Nat × Outcome)} {place : Workplace} {job : Job} {lock : Nat}
      (held : place.locks.isHeldBy lock id = true) :
      Step settings clock id ⟨.waiting job lock, done⟩ place .start
        ⟨.calling job lock .whole clock, done⟩ (place.withCall id job .whole)
  | finish {done : List (Nat × Outcome)} {place : Workplace} {job : Job} {lock : Nat}
      {attempt : Attempt} {since : Duration} {action : WorkerAction} {reply : Reply}
      {now : Instant} {statuses : Statuses} (ends : CallEnds settings clock since action reply now)
      (settled : job.plan.proceed attempt reply = .finished statuses) :
      Step settings clock id ⟨.calling job lock attempt since, done⟩ place action
        ⟨.free, done ++ [(job.position, ⟨job.plan, statuses, now⟩)]⟩
        { place.withReply job attempt reply with locks := place.locks.release lock id }
  | retry {done : List (Nat × Outcome)} {place : Workplace} {job : Job} {lock : Nat}
      {since : Duration} {action : WorkerAction} {reply : Reply} {now : Instant}
      {refused : List Dimension} (ends : CallEnds settings clock since action reply now)
      (again : job.plan.proceed .whole reply = .calling (.reduced refused)) :
      Step settings clock id ⟨.calling job lock .whole since, done⟩ place action
        ⟨.calling job lock (.reduced refused) clock, done⟩
        ((place.withReply job .whole reply).withCall id job (.reduced refused))
  | breakDown {done : List (Nat × Outcome)} {place : Workplace} {job : Job} {lock : Nat}
      {attempt : Attempt} {since : Duration} :
      Step settings clock id ⟨.calling job lock attempt since, done⟩ place .breakDown ⟨.lost, []⟩
        { place with locks := place.locks.release lock id }

end Worker

namespace Plan

/-- A plan goes on with another call only after its first one. -/
theorem proceed_eq_calling {plan : Plan} {attempt next : Attempt} {reply : Reply}
    (h : plan.proceed attempt reply = .calling next) :
    attempt = .whole ∧ ∃ refused, next = .reduced refused := by
  cases attempt with
  | reduced refused =>
      obtain ⟨statuses, finished⟩ := plan.proceed_reduced refused reply
      rw [finished] at h
      contradiction
  | whole =>
      refine ⟨rfl, ?_⟩
      cases reply with
      | ok => simp [proceed] at h
      | error error =>
          cases error with
          | failed reason => simp [proceed] at h
          | timeout limit => simp [proceed] at h
          | rejected dimensions reason =>
              simp only [proceed] at h
              split at h
              · contradiction
              · split at h
                · contradiction
                · exact ⟨_, (Progress.calling.inj h).symm⟩

end Plan

namespace Worker

variable {settings : ExecutorSettings} {clock : Duration} {id : WorkerId}

private theorem Step.of_goOn {job : Job} {lock : Nat} {attempt : Attempt} {since : Duration}
    {done : List (Nat × Outcome)} {place nextPlace : Workplace} {next : Worker}
    {action : WorkerAction} {reply : Reply} {now : Instant}
    (ends : CallEnds settings clock since action reply now)
    (h : Worker.goOn ⟨.calling job lock attempt since, done⟩ id clock place job lock attempt reply
      now = (next, nextPlace)) :
    Step settings clock id ⟨.calling job lock attempt since, done⟩ place action next
      nextPlace := by
  cases progress : job.plan.proceed attempt reply with
  | finished statuses =>
      simp only [Worker.goOn, progress] at h
      cases h
      exact .finish ends progress
  | calling another =>
      obtain ⟨rfl, refused, rfl⟩ := Plan.proceed_eq_calling progress
      simp only [Worker.goOn, progress] at h
      cases h
      exact .retry ends progress

/-- What a worker does is one of the steps. -/
theorem Step.of_act {worker next : Worker} {place nextPlace : Workplace} {action : WorkerAction}
    (h : worker.act settings clock id place action = some (next, nextPlace)) :
    Step settings clock id worker place action next nextPlace := by
  rcases worker with ⟨state, done⟩
  unfold act at h
  split at h
  case h_1 stateEq =>
    cases stateEq
    split at h
    · rename_i empty
      cases h
      exact .leave empty
    · rename_i job rest first
      cases h
      exact .take first
  case h_2 job now stateEq =>
    cases stateEq
    split at h
    · rename_i statuses nothing
      cases h
      exact .skip now nothing
    · rename_i attempt something
      cases h
      obtain ⟨rfl, -⟩ := Plan.begin_eq_calling something
      exact .lookUp now something
  case h_3 job lock stateEq =>
    cases stateEq
    cases h
    exact .enqueue
  case h_4 job lock stateEq =>
    cases stateEq
    split at h
    · rename_i held
      cases h
      exact .start held
    · contradiction
  case h_5 job lock attempt since reply now stateEq =>
    cases stateEq
    exact .of_goOn (.answered reply now) (Option.some.inj h)
  case h_6 job lock attempt since now stateEq =>
    cases stateEq
    split at h
    · rename_i late
      exact .of_goOn (.expired now late) (Option.some.inj h)
    · contradiction
  case h_7 job lock attempt since stateEq =>
    cases stateEq
    cases h
    exact .breakDown
  case h_8 => contradiction

/-- Each of the steps can be done. -/
theorem Step.act {worker next : Worker} {place nextPlace : Workplace} {action : WorkerAction}
    (step : Step settings clock id worker place action next nextPlace) :
    worker.act settings clock id place action = some (next, nextPlace) := by
  cases step with
  | leave none_left => simp [Worker.act, none_left]
  | take first => simp [Worker.act, first]
  | skip now nothing => simp [Worker.act, nothing, Worker.finish]
  | lookUp now something => simp [Worker.act, something]
  | enqueue => rfl
  | start held => simp [Worker.act, held, call, Workplace.withCall]
  | finish ends settled =>
      cases ends with
      | answered => simp [Worker.act, goOn, settled, Worker.finish, Workplace.withReply]
      | expired now late =>
          simp [Worker.act, late, goOn, settled, Worker.finish, Workplace.withReply]
  | retry ends again =>
      cases ends with
      | answered => simp [Worker.act, goOn, again, call, Workplace.withReply, Workplace.withCall]
      | expired now late =>
          simp [Worker.act, late, goOn, again, call, Workplace.withReply, Workplace.withCall]
  | breakDown => rfl

/-- The call that a worker waits for. -/
def currentCall? (id : WorkerId) (worker : Worker) : Option Call :=
  match worker.state with
  | .calling job _ attempt _ => some ⟨id, job.position, job.plan.requestOf attempt⟩
  | _ => none

/-- A step makes one call at most, in the name of the worker. -/
theorem Step.exists_calls {worker next : Worker} {place nextPlace : Workplace}
    {action : WorkerAction} (step : Step settings clock id worker place action next nextPlace) :
    ∃ made, nextPlace.calls = place.calls ++ made ∧ ∀ call ∈ made, call.worker = id := by
  cases step with
  | start held => exact ⟨_, rfl, by simp⟩
  | retry ends again => exact ⟨_, rfl, by simp⟩
  | leave => exact ⟨[], by simp, by simp⟩
  | take => exact ⟨[], by simp, by simp⟩
  | skip => exact ⟨[], by simp, by simp⟩
  | lookUp => exact ⟨[], by simp, by simp⟩
  | enqueue => exact ⟨[], by simp, by simp⟩
  | finish => exact ⟨[], by simp [Workplace.withReply], by simp⟩
  | breakDown => exact ⟨[], by simp, by simp⟩

end Worker

end PodSizing
