import PodSizing.Executor.Application
import PodSizing.Executor.PodLocks
import PodSizing.Plan.Batch

/-!
# Workers

The plans of a batch stand in a queue, and workers take them one by one.  A worker that has a
plan to send looks up the lock of the pod, joins its queue, calls the runtime once it holds the
lock, and keeps the lock until the plan is done.  `Worker.act` is one step of one worker on what
all workers share; which worker acts when, and what the runtime replies, is left open.
-/

namespace PodSizing

/-- The name of a worker: its execution, and its number within the pool. -/
structure WorkerId where
  execution : Nat
  number : Nat
  deriving DecidableEq

/-- How far a worker is. -/
inductive WorkerState where
  /-- It takes the next plan. -/
  | free
  /-- It has taken a plan. -/
  | opening (job : Job)
  /-- It has looked up the lock of the pod. -/
  | queueing (job : Job) (lock : Nat)
  /-- It stands in the queue of the lock, or has come to its head. -/
  | waiting (job : Job) (lock : Nat)
  /-- It holds the lock, and a call has been running since the given time. -/
  | calling (job : Job) (lock : Nat) (attempt : Attempt) (since : Duration)
  /-- It found no further plan. -/
  | left
  /-- It broke down during a call. -/
  | lost
  deriving DecidableEq

/-- A worker with the outcomes of the plans it has done, by position. -/
structure Worker where
  state : WorkerState
  done : List (Nat × Outcome)
  deriving DecidableEq

/-- A call that the runtime was asked for. -/
structure Call where
  worker : WorkerId
  position : Nat
  request : ResizeRequest
  deriving DecidableEq

/-- What the workers of a batch share. -/
structure Workplace where
  queue : List Job
  locks : PodLocks WorkerId
  /-- All calls so far. -/
  calls : List Call
  events : List Event
  deriving DecidableEq

/-- What a worker does in one step. -/
inductive WorkerAction where
  /-- Takes the next plan, or leaves when there is none. -/
  | take
  /-- Finishes a plan that needs no call, or looks up the lock of the pod. -/
  | lookUp (now : Instant)
  | enqueue
  /-- Makes the first call, holding the lock. -/
  | start
  /-- Goes on with the reply of the runtime. -/
  | answer (reply : Reply) (now : Instant)
  /-- Gives up a call that has run for as long as it may. -/
  | expire (now : Instant)
  /-- Breaks down during a call, and with it all that the worker has done in the batch. -/
  | breakDown

namespace Worker

/-- A worker that has done nothing yet. -/
def fresh : Worker := ⟨.free, []⟩

/-- The worker takes no more plans. -/
def isGone (worker : Worker) : Bool :=
  worker.state == .left || worker.state == .lost

/-- The worker after a plan is done. -/
def finish (worker : Worker) (job : Job) (statuses : Statuses) (now : Instant) : Worker :=
  ⟨.free, worker.done ++ [(job.position, ⟨job.plan, statuses, now⟩)]⟩

/-- The worker makes a call. -/
def call (worker : Worker) (id : WorkerId) (clock : Duration) (place : Workplace) (job : Job)
    (lock : Nat) (attempt : Attempt) : Worker × Workplace :=
  ({ worker with state := .calling job lock attempt clock },
    { place with calls := place.calls ++ [⟨id, job.position, job.plan.requestOf attempt⟩] })

/-- The worker goes on after a call that is over. -/
def goOn (worker : Worker) (id : WorkerId) (clock : Duration) (place : Workplace) (job : Job)
    (lock : Nat) (attempt : Attempt) (reply : Reply) (now : Instant) : Worker × Workplace :=
  let place := { place with events := place.events ++ job.plan.proceedEvents attempt reply }
  match job.plan.proceed attempt reply with
  | .finished statuses =>
      (worker.finish job statuses now, { place with locks := place.locks.release lock id })
  | .calling next => worker.call id clock place job lock next

/-- One step of a worker; `none` when the worker cannot do it now. -/
def act (settings : ExecutorSettings) (clock : Duration) (id : WorkerId) (worker : Worker)
    (place : Workplace) (action : WorkerAction) : Option (Worker × Workplace) :=
  match worker.state, action with
  | .free, .take =>
      match place.queue with
      | [] => some ({ worker with state := .left }, place)
      | job :: rest => some ({ worker with state := .opening job }, { place with queue := rest })
  | .opening job, .lookUp now =>
      match job.plan.begin settings.dryRun with
      | .finished statuses => some (worker.finish job statuses now, place)
      | .calling _ =>
          let (lock, locks) := place.locks.lookUp job.plan.container.pod id
          some ({ worker with state := .queueing job lock }, { place with locks })
  | .queueing job lock, .enqueue =>
      some ({ worker with state := .waiting job lock },
        { place with locks := place.locks.enqueue lock id })
  | .waiting job lock, .start =>
      if place.locks.isHeldBy lock id then some (worker.call id clock place job lock .whole)
      else none
  | .calling job lock attempt _, .answer reply now =>
      some (worker.goOn id clock place job lock attempt reply now)
  | .calling job lock attempt since, .expire now =>
      if since + settings.applyTimeout ≤ clock then
        some (worker.goOn id clock place job lock attempt
          (.error (.timeout settings.applyTimeout)) now)
      else none
  | .calling _ lock _ _, .breakDown =>
      some (⟨.lost, []⟩, { place with locks := place.locks.release lock id })
  | _, _ => none

end Worker

end PodSizing
