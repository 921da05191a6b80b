import PodSizing.Binary64.Shortest
import PodSizing.Outcome

/-!
# Metrics

What the operator counts: how long cycles and calls take, what became of the dimensions that were
to be resized, failed cycles and plans put off.  `Metrics.samples` gives the counters by the names
under which they are published, and `Metrics.growth` what they have grown by.
-/

namespace PodSizing

/-- Values counted by the limits that they do not exceed. -/
structure Histogram where
  /-- Each limit with the number of values up to it. -/
  buckets : List (Binary64 × Nat)
  /-- All values. -/
  total : Nat
  deriving DecidableEq

namespace Histogram

/-- No value has been counted. -/
def ofLimits (limits : List Binary64) : Histogram := ⟨limits.map (·, 0), 0⟩

/-- Counts a value.  A limit belongs to its bucket, and a value that is not a number to none. -/
def observe (histogram : Histogram) (value : Binary64) : Histogram where
  buckets := histogram.buckets.map fun (limit, count) =>
    (limit, if value.le limit then count + 1 else count)
  total := histogram.total + 1

/-- The published counters of a histogram. -/
def samples (histogram : Histogram) (name : String) : List (String × Nat) :=
  let bucket (limit : String) (count : Nat) :=
    (name ++ "_bucket\x7ble=\"" ++ limit ++ "\"\x7d", count)
  histogram.buckets.map (fun (limit, count) => bucket limit.toText count) ++
    [bucket "+Inf" histogram.total, (name ++ "_count", histogram.total)]

end Histogram

/-- The number of dimensions with each kind of status. -/
structure StatusCounts where
  applied : Nat
  skipped : Nat
  failed : Nat
  deriving DecidableEq

namespace StatusCounts

/-- No status has been counted. -/
def zero : StatusCounts := ⟨0, 0, 0⟩

/-- Counts a status. -/
def add (counts : StatusCounts) : Status → StatusCounts
  | .applied => { counts with applied := counts.applied + 1 }
  | .skipped _ => { counts with skipped := counts.skipped + 1 }
  | .failed _ => { counts with failed := counts.failed + 1 }

/-- The counts with the labels of the statuses. -/
def labelled (counts : StatusCounts) : List (String × Nat) :=
  [("applied", counts.applied), ("skipped", counts.skipped), ("failed", counts.failed)]

end StatusCounts

/-- All that the operator counts. -/
structure Metrics where
  /-- Seconds that cycles took. -/
  cycleDurations : Histogram
  /-- Seconds that calls of the runtime took. -/
  applyLatencies : Histogram
  /-- The containers evaluated in the last cycle, in 64 bits with a sign. -/
  containersEvaluated : Int
  /-- The plans built in the last cycle, in 64 bits with a sign. -/
  plansBuilt : Int
  outcomes : PerDimension StatusCounts
  cycleFailures : Nat
  plansDeferred : Nat
  deriving DecidableEq

namespace Metrics

/-- Numbers of thousandths. -/
private def thousandths (values : List Nat) : List Binary64 :=
  values.map fun value => .ofDecimal false value (-3)

/-- The limits for cycles, a tenth of a second to two minutes. -/
def cycleLimits : List Binary64 :=
  thousandths [100, 250, 500, 1000, 2500, 5000, 10000, 30000, 60000, 120000]

/-- The limits for calls of the runtime, five milliseconds to ten seconds. -/
def latencyLimits : List Binary64 :=
  thousandths [5, 10, 25, 50, 100, 250, 500, 1000, 2500, 5000, 10000]

/-- Nothing has been counted. -/
def empty : Metrics where
  cycleDurations := .ofLimits cycleLimits
  applyLatencies := .ofLimits latencyLimits
  containersEvaluated := 0
  plansBuilt := 0
  outcomes := ⟨.zero, .zero⟩
  cycleFailures := 0
  plansDeferred := 0

/-- A count as it is published: in 64 bits, rounded to 53 significant ones. -/
def published (count : Nat) : Nat := Binary64.roundUnits (count % Nat.pow 2 64) 1

/-- A count as a gauge publishes it: in 64 bits with a sign, rounded to 53 significant ones. -/
def gauge (count : Nat) : Int :=
  let held := Int.bmod count (Nat.pow 2 64)
  let magnitude := Binary64.roundUnits held.natAbs 1
  if held < 0 then -magnitude else min magnitude (Nat.pow 2 63 - 1)

/-- Counts a cycle by the seconds that it took. -/
def observeCycle (metrics : Metrics) (seconds : Binary64) : Metrics :=
  { metrics with cycleDurations := metrics.cycleDurations.observe seconds }

/-- Counts a call of the runtime by the seconds that it took. -/
def observeLatency (metrics : Metrics) (seconds : Binary64) : Metrics :=
  { metrics with applyLatencies := metrics.applyLatencies.observe seconds }

/-- Shows the containers of the last cycle in place of those before. -/
def setContainersEvaluated (metrics : Metrics) (count : Nat) : Metrics :=
  { metrics with containersEvaluated := gauge count }

/-- Shows the plans of the last cycle in place of those before. -/
def setPlansBuilt (metrics : Metrics) (count : Nat) : Metrics :=
  { metrics with plansBuilt := gauge count }

/-- Counts a cycle that failed. -/
def addFailure (metrics : Metrics) : Metrics :=
  { metrics with cycleFailures := metrics.cycleFailures + 1 }

/-- Counts the plans that a cycle put off. -/
def addDeferred (metrics : Metrics) (count : Nat) : Metrics :=
  { metrics with plansDeferred := metrics.plansDeferred + count }

/-- Counts the status of one dimension. -/
def addStatus (metrics : Metrics) (dimension : Dimension) (status : Status) : Metrics :=
  { metrics with
    outcomes := metrics.outcomes.set dimension ((metrics.outcomes.get dimension).add status) }

/-- Counts the dimensions of an outcome that were to be resized. -/
def addOutcome (metrics : Metrics) (outcome : Outcome) : Metrics :=
  outcome.plan.changing.foldl (fun metrics dimension =>
    metrics.addStatus dimension (outcome.statuses.get dimension)) metrics

/-- Counts all that a report tells. -/
def addReport (metrics : Metrics) (report : CycleReport) : Metrics :=
  let metrics := metrics.setContainersEvaluated report.evaluated
  let metrics := metrics.setPlansBuilt report.plansBuilt
  report.outcomes.foldl addOutcome (metrics.addDeferred report.plansDeferred)

/-- The published counters by name. -/
def samples (metrics : Metrics) : List (String × Nat) :=
  metrics.cycleDurations.samples "rightsizer_cycle_duration_seconds" ++
    metrics.applyLatencies.samples "rightsizer_apply_latency_seconds" ++
    (Dimension.all.flatMap fun dimension =>
      (metrics.outcomes.get dimension).labelled.map fun (label, count) =>
        ("rightsizer_resize_outcomes_total\x7bdimension=\"" ++ dimension.name ++ "\",status=\"" ++
          label ++ "\"\x7d", count)) ++
    [("rightsizer_cycle_failures_total", metrics.cycleFailures),
     ("rightsizer_plans_deferred_total", metrics.plansDeferred)]

/-- The counters that have grown as they are published, and by how much. -/
def growth (before after : Metrics) : List (String × Nat) :=
  (before.samples.zip after.samples).filterMap fun ((_, old), (name, new)) =>
    if published old < published new then some (name, published new - published old) else none

end Metrics

end PodSizing
