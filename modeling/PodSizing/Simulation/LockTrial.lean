import PodSizing.Duration
import PodSizing.Executor.PodLocks

/-!
# Trials of the pod locks

Tasks that each wake at a given time, take the lock of a pod, hold it for a while and let go of
it.  A trial tells when each task got its lock and let go of it, and how many locks there were in
between.
-/

namespace PodSizing.Simulation

/-- What a task is to do. -/
structure LockTask where
  pod : PodId
  wake : Duration
  hold : Duration

/-- How far a task is. -/
inductive LockPhase where
  | asleep
  | waiting (lock : Nat)
  | holding (lock : Nat) (got : Duration)
  | done (got released : Duration)

/-- Tasks at work; each is known by its number. -/
structure LockTrial where
  clock : Duration
  locks : PodLocks Nat
  tasks : List (LockTask × LockPhase)

namespace LockTrial

/-- Tasks that have all still to come, and no locks. -/
def ofTasks (tasks : List LockTask) : LockTrial :=
  ⟨.zero, .empty, tasks.map fun task => (task, .asleep)⟩

/-- What a task can do now. -/
def move? (trial : LockTrial) (number : Nat) (task : LockTask) :
    LockPhase → Option (LockPhase × PodLocks Nat)
  | .asleep =>
      if task.wake ≤ trial.clock then
        let (lock, locks) := trial.locks.lookUp task.pod number
        some (.waiting lock, locks.enqueue lock number)
      else none
  | .waiting lock =>
      if trial.locks.isHeldBy lock number then some (.holding lock trial.clock, trial.locks)
      else none
  | .holding lock got =>
      if got + task.hold ≤ trial.clock then
        some (.done got trial.clock, trial.locks.release lock number)
      else none
  | .done _ _ => none

/-- When a task goes on without the help of others. -/
def nextTime? (task : LockTask) : LockPhase → Option Duration
  | .asleep => some task.wake
  | .holding _ got => some (got + task.hold)
  | _ => none

/-- One step up to the horizon: the first task that can move, or else the clock. -/
def step? (trial : LockTrial) (horizon : Option Duration) : Option LockTrial :=
  let moved := trial.tasks.zipIdx.findSome? fun ((task, phase), number) =>
    (trial.move? number task phase).map fun (phase, locks) =>
      { trial with locks, tasks := trial.tasks.set number (task, phase) }
  moved.or
    (match (trial.tasks.filterMap fun (task, phase) => nextTime? task phase).foldl
        (fun soonest time => some (soonest.elim time (min time))) none with
      | some time =>
          if horizon.all (time ≤ ·) then some { trial with clock := time } else none
      | none => none)

/-- Takes so many steps at most. -/
def advance (horizon : Option Duration) : Nat → LockTrial → LockTrial
  | 0, trial => trial
  | fuel + 1, trial =>
      match trial.step? horizon with
      | some next => advance horizon fuel next
      | none => trial

/-- Goes on until the horizon, or until all tasks are done.  A task takes three steps and two of
the clock. -/
def runUntil (trial : LockTrial) (horizon : Option Duration) : LockTrial :=
  trial.advance horizon (5 * trial.tasks.length)

/-- Drops the locks that no task uses. -/
def prune (trial : LockTrial) : LockTrial := { trial with locks := trial.locks.prune }

/-- When each task that is done got its lock and let go of it. -/
def times (trial : LockTrial) : List (Option (Duration × Duration)) :=
  trial.tasks.map fun (_, phase) =>
    match phase with
    | .done got released => some (got, released)
    | _ => none

end LockTrial

end PodSizing.Simulation
