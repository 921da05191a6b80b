import PodSizing.Metrics
import PodSizing.Operator.Reconciler

/-!
# The reporter

The reporter of an operator writes what it is told of the cycles to the journal, and counts it.
The journal and the counters are filled independently of each other, each from the report itself.
-/

namespace PodSizing

/-- A reporter that keeps a journal and counters. -/
structure LogReporter where
  /-- The operator that the events name. -/
  operator : String
  metrics : Metrics
  /-- All that has been written, in its order. -/
  events : List Event

namespace LogReporter

/-- Writes and counts what is told of one cycle. -/
def tell (reporter : LogReporter) : Notice → LogReporter
  | .completed report =>
      { reporter with
        metrics := reporter.metrics.addReport report
        events := reporter.events ++ Journal.report reporter.operator report }
  | .failed _ error =>
      { reporter with
        metrics := reporter.metrics.addFailure
        events := reporter.events ++ [Journal.failed reporter.operator error] }

/-- Writes and counts what is told of several cycles. -/
def tellAll (reporter : LogReporter) (notices : List Notice) : LogReporter :=
  notices.foldl tell reporter

end LogReporter

end PodSizing
