import PodSizing.Event
import PodSizing.Policy

/-!
# The loop

The operator runs a cycle at every tick until it is told to stop.  Cycles do not overlap: a tick
that comes during a cycle waits for its end, and ticks that were missed are left out.  When a
tick and the order to stop are there at the same time, either may be taken up first;
`Loop.step?` leaves the choice open.
-/

namespace PodSizing

/-- A source of ticks. -/
structure Ticker where
  interval : Duration
  /-- When the next tick comes. -/
  due : Duration
  deriving DecidableEq

namespace Ticker

/-- How late a tick may be taken up without being counted as missed. -/
def tolerance : Duration := .ofMillis 5

/-- The next tick has come. -/
def isDue (ticker : Ticker) (clock : Duration) : Bool := ticker.due ≤ clock

/-- The ticker after the tick that is due was taken up.  After a tick that was missed the next one
comes at the next whole number of intervals. -/
def next (ticker : Ticker) (clock : Duration) : Ticker :=
  if clock ≤ ticker.due + tolerance then { ticker with due := ticker.due + ticker.interval }
  else
    let late := clock.nanos - ticker.due.nanos
    { ticker with due := ⟨clock.nanos + ticker.interval.nanos - late % ticker.interval.nanos⟩ }

end Ticker

/-- What the loop is doing. -/
inductive LoopPhase where
  | waiting
  | cycling
  | stopped
  deriving DecidableEq

/-- The loop of an operator. -/
structure Loop where
  clock : Duration
  ticker : Ticker
  phase : LoopPhase
  /-- The order to stop has been sent. -/
  ordered : Bool
  /-- The cycles begun so far. -/
  cycles : Nat
  deriving DecidableEq

/-- What happens to a loop. -/
inductive LoopAction where
  /-- Time passes. -/
  | elapse (time : Duration)
  /-- The order to stop is sent. -/
  | order
  | beginCycle
  | endCycle
  | stop
  deriving DecidableEq

namespace Loop

/-- A loop whose first tick comes at once. -/
def ofInterval (interval : Duration) : Loop := ⟨.zero, ⟨interval, .zero⟩, .waiting, false, 0⟩

/-- One step; `none` when the action is not possible now. -/
def step? (loop : Loop) : LoopAction → Option Loop
  | .elapse time => some { loop with clock := loop.clock + time }
  | .order => some { loop with ordered := true }
  | .beginCycle =>
      if loop.phase = .waiting ∧ loop.ticker.isDue loop.clock then
        some
          { loop with
            phase := .cycling
            ticker := loop.ticker.next loop.clock
            cycles := loop.cycles + 1 }
      else none
  | .endCycle =>
      if loop.phase = .cycling then some { loop with phase := .waiting } else none
  | .stop =>
      if loop.phase = .waiting ∧ loop.ordered then some { loop with phase := .stopped } else none

/-- A sequence of steps. -/
def run? (loop : Loop) : List LoopAction → Option Loop
  | [] => some loop
  | action :: rest => (loop.step? action).bind fun next => run? next rest

/-- The event when the loop starts. -/
def startEvent (settings : ExecutorSettings) (interval : Duration) : Event :=
  ⟨.info, "Starting reconciliation loop",
    [("interval_secs", .natural interval.wholeSeconds), ("dry_run", .flag settings.dryRun)]⟩

/-- The event when the loop stops. -/
def stopEvent : Event := ⟨.info, "Shutting down reconciliation loop", []⟩

end Loop

end PodSizing
