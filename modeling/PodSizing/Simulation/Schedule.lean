import PodSizing.Executor
import PodSizing.Simulation.ApiServer

/-!
# Simulated executions

One of the many orders in which the steps of an execution can happen: a worker goes on until it
has to wait, calls that end at the same time end in the order in which they began, and the clock
moves to the next moment at which something can happen, and only when nothing can happen before.
`Trial.apply` follows this order against a given runtime and records when each call began and
ended.
-/

namespace PodSizing.Simulation

/-- How a call ended. -/
inductive CallEnd where
  | running
  | replied (time : Duration)
  /-- The time for the call was over. -/
  | cutOff
  deriving DecidableEq

/-- A call with its times. -/
structure TimedCall where
  call : Call
  start : Duration
  /-- When the scripted runtime replies. -/
  due : Duration
  reply : Option Reply
  finish : CallEnd

namespace TimedCall

/-- The call has not ended. -/
def isRunning (timed : TimedCall) : Bool := timed.finish == .running

/-- The end of a call that was replied to. -/
def finished? (timed : TimedCall) : Option Duration :=
  match timed.finish with
  | .replied time => some time
  | _ => none

/-- The call with times counted from the given one. -/
def since (timed : TimedCall) (origin : Duration) : TimedCall :=
  { timed with
    start := timed.start - origin
    due := timed.due - origin
    finish := match timed.finish with
      | .replied time => .replied (time - origin)
      | finish => finish }

/-- The order of two lists of names in a dictionary; a list comes before those that it begins. -/
def namesInOrder : List String → List String → Bool
  | [], _ => true
  | _ :: _, [] => false
  | first :: rest, second :: others =>
      first < second || (first == second && namesInOrder rest others)

/-- The order of two calls in a record: by their start, and at one time by namespace, pod and
container. -/
def precedes (first second : TimedCall) : Bool :=
  let names (timed : TimedCall) : List String :=
    let container := timed.call.request.container
    [container.pod.namespaceName, container.pod.name, container.container]
  first.start.nanos < second.start.nanos ||
    (first.start.nanos == second.start.nanos && namesInOrder (names first) (names second))

/-- When the caller stops waiting for the call, or the reply comes. -/
def wakeTime (timed : TimedCall) (timeout : Duration) : Duration :=
  min timed.due (timed.start + timeout)

end TimedCall

/-- An executor at work against a given runtime. -/
structure Trial where
  executor : Executor
  runtime : Runtime
  /-- The events so far, of the executor and of the runtime. -/
  events : List Event
  /-- The execution that is followed. -/
  execution : Nat
  /-- When the runtime was put in place: the times of a record count from then. -/
  loaded : Duration
  /-- The calls in the order of their beginning. -/
  calls : List TimedCall
  /-- The worker that acted last. -/
  last : Option WorkerId
  /-- The instant at which outcomes are written. -/
  now : Instant

namespace Trial

/-- The call that a worker waits for. -/
def runningCall? (trial : Trial) (id : WorkerId) : Option TimedCall :=
  trial.calls.find? fun timed => timed.isRunning && timed.call.worker == id

/-- What a worker can do now. -/
def workerAction? (trial : Trial) (id : WorkerId) (worker : Worker) : Option WorkerAction :=
  match worker.state with
  | .free => some .take
  | .opening _ => some (.lookUp trial.now)
  | .queueing _ _ => some .enqueue
  | .waiting _ lock => if trial.executor.locks.isHeldBy lock id then some .start else none
  | .calling _ _ _ since => do
      let timed ← trial.runningCall? id
      if timed.due ≤ trial.executor.clock then
        match timed.reply with
        | some reply => some (.answer reply trial.now)
        | none => some .breakDown
      else if since + trial.executor.settings.applyTimeout ≤ trial.executor.clock then
        some (.expire trial.now)
      else none
  | .left => none
  | .lost => none

/-- The workers in the order in which they may act. -/
def candidates (trial : Trial) (pool : Pool) : List WorkerId :=
  trial.last.toList ++
    (trial.calls.filter TimedCall.isRunning).map (fun timed => timed.call.worker) ++
    (List.range pool.workers.length).map fun number => ⟨trial.execution, number⟩

/-- The first worker that can act, and what it does. -/
def nextWork? (trial : Trial) (pool : Pool) : Option (WorkerId × WorkerAction) :=
  (trial.candidates pool).findSome? fun id => do
    let worker ← pool.workers[id.number]?
    let action ← trial.workerAction? id worker
    some (id, action)

/-- The time until the next call ends. -/
def untilWake? (trial : Trial) : Option Duration :=
  let times := (trial.calls.filter TimedCall.isRunning).map fun timed =>
    timed.wakeTime trial.executor.settings.applyTimeout
  (times.foldl (fun soonest time => some (soonest.elim time (min time))) none).map
    fun time => time - trial.executor.clock

/-- What happens next. -/
def nextAction? (trial : Trial) : Option Action := do
  let execution ← trial.executor.executions[trial.execution]?
  match execution.stage with
  | .turn => some (.turn trial.execution)
  | .running pool =>
      match trial.nextWork? pool with
      | some (id, action) => some (.work id action)
      | none =>
          if pool.isOver then some (.join trial.execution trial.now)
          else trial.untilWake?.map .elapse
  | .pausing since =>
      let resumption := since + trial.executor.settings.batchDelay
      if resumption ≤ trial.executor.clock then some (.resume trial.execution)
      else some (.elapse (resumption - trial.executor.clock))
  | .closing => some (.close trial.execution)
  | .returned => none

/-- Marks the end of the call that a worker waited for. -/
def endCall (trial : Trial) (id : WorkerId) (finish : CallEnd) : Trial :=
  { trial with
    calls := trial.calls.map fun timed =>
      if timed.isRunning && timed.call.worker == id then { timed with finish } else timed }

/-- Records how an action ends a call. -/
def noteEnd (trial : Trial) : Action → Trial
  | .work id (.answer _ _) => trial.endCall id (.replied trial.executor.clock)
  | .work id .breakDown => trial.endCall id (.replied trial.executor.clock)
  | .work id (.expire _) => trial.endCall id .cutOff
  | _ => trial

/-- The number of calls so far for a container. -/
def attempts (trial : Trial) (container : ContainerId) : Nat :=
  (trial.calls.filter fun timed => timed.call.request.container == container).length

/-- Records a call that begins now. -/
def noteStart (trial : Trial) (call : Call) : Trial :=
  let clock := trial.executor.clock
  let ((delay, reply), runtime, events) :=
    trial.runtime.reply (trial.attempts call.request.container) call.request
  { trial with
    runtime
    events := trial.events ++ events
    calls := trial.calls ++ [⟨call, clock, clock + delay, reply, .running⟩] }

/-- One step: what happens next, and what it changes for the runtime. -/
def step? (trial : Trial) : Option Trial := do
  let action ← trial.nextAction?
  let executor ← trial.executor.step? action
  let last := match action with
    | .work id _ => some id
    | _ => none
  let begun := executor.calls.drop trial.executor.calls.length
  let events := trial.events ++ executor.events.drop trial.executor.events.length
  some (begun.foldl noteStart { trial.noteEnd action with executor, last, events })

/-- Goes on until nothing happens any more, for so many steps at most. -/
def advance : Nat → Trial → Trial
  | 0, trial => trial
  | fuel + 1, trial =>
      match trial.step? with
      | some next => advance fuel next
      | none => trial

/-- Steps enough for any execution of so many plans: a plan takes at most six steps of a worker
and two of the clock, and a batch at most five more and one for each worker. -/
def stepsFor (plans : Nat) : Nat := 20 * (plans + 1)

/-- An executor that is to work against a runtime from now on. -/
def ofRuntime (executor : Executor) (runtime : Runtime) (now : Instant) : Trial where
  executor := executor
  runtime := runtime
  events := []
  execution := executor.executions.length
  loaded := executor.clock
  calls := []
  last := none
  now := now

/-- Lets time pass. -/
def wait (trial : Trial) (time : Duration) : Trial :=
  { trial with executor := (trial.executor.step? (.elapse time)).getD trial.executor }

/-- Applies plans to the end, in a new execution. -/
def apply (trial : Trial) (plans : List Plan) (batchSize concurrency : Nat) : Trial :=
  let begun := trial.executor.step? (.execute plans batchSize concurrency)
  advance (stepsFor plans.length)
    { trial with
      executor := begun.getD trial.executor
      execution := trial.executor.executions.length
      last := none }

/-- The execution that was followed. -/
def followed? (trial : Trial) : Option Execution :=
  trial.executor.executions[trial.execution]?

/-- The outcomes of the execution that was followed. -/
def outcomes (trial : Trial) : List Outcome :=
  (trial.followed?.map Execution.outcomes).getD []

/-- The plans that the execution that was followed has put off. -/
def deferred (trial : Trial) : List Plan :=
  (trial.followed?.map Execution.deferred).getD []

/-- The calls in the order of a record, with times counted from the start of the trial; calls
for one container keep the order in which they were made. -/
def record (trial : Trial) : List TimedCall :=
  (trial.calls.mergeSort TimedCall.precedes).map fun timed => timed.since trial.loaded

/-- The time since the execution began. -/
def elapsed (trial : Trial) : Duration :=
  trial.executor.clock - (trial.followed?.map Execution.started).getD .zero

end Trial

end PodSizing.Simulation
