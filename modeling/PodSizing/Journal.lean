import PodSizing.Event
import PodSizing.Instant.Timestamp
import PodSizing.Outcome
import PodSizing.RuntimeError

/-!
# The journal

The events by which the operator tells what it does: its start and end, every cycle, and every
dimension of an outcome.  An event names the operator that it is about, except where a dimension
was left as it is.
-/

namespace PodSizing.Journal

/-- An event of a given kind about an operator. -/
private def entry (severity : Severity) (operator kind message : String)
    (fields : List (String × FieldValue)) : Event where
  severity := severity
  message := message
  fields := [("event", .text kind), ("operator", .text operator)] ++ fields

@[simp]
theorem fields_entry (severity : Severity) (operator kind message : String)
    (fields : List (String × FieldValue)) :
    (entry severity operator kind message fields).fields =
      ("event", .text kind) :: ("operator", .text operator) :: fields := rfl

/-- The operator has started, with what it was started with. -/
def started (operator version : String) (dryRun : Bool) (interval : Duration) : Event :=
  entry .info operator "operator_started" "Right-sizer started"
    [("version", .text version), ("dry_run", .flag dryRun),
     ("interval_secs", .natural interval.wholeSeconds)]

/-- The operator is about to stop, and why. -/
def stopped (operator reason : String) : Event :=
  entry .info operator "operator_shutdown" "Right-sizer shutting down" [("reason", .text reason)]

/-- The summary of a finished cycle. -/
def completed (operator : String) (report : CycleReport) : Event :=
  entry .info operator "cycle_completed" "Reconciliation cycle completed"
    [("cycle_timestamp", .text (report.timestamp.toText .digits)),
     ("containers_evaluated", .natural report.evaluated),
     ("samples_unavailable", .natural report.unavailable),
     ("plans_built", .natural report.plansBuilt), ("plans_deferred", .natural report.plansDeferred),
     ("applied", .natural (report.countStatus "applied")),
     ("skipped", .natural (report.countStatus "skipped")),
     ("failed", .natural (report.countStatus "failed"))]

/-- A cycle has failed, and why. -/
def failed (operator : String) (error : CycleError) : Event :=
  entry .warn operator "cycle_failed" "Reconciliation cycle failed"
    [("error", .text error.message)]

/-- What became of one dimension. -/
def dimension (operator : String) (outcome : Outcome) (dimension : Dimension) : Event :=
  let decision := outcome.plan.decisions.get dimension
  let subject : List (String × FieldValue) :=
    [("container", .text outcome.plan.container.toText), ("dimension", .text dimension.name)]
  let verdict : String × FieldValue := ("verdict", .text decision.verdict.name)
  let move : List (String × FieldValue) :=
    [("from", .natural decision.current), ("to", .natural decision.target)]
  match outcome.statuses.get dimension with
  | .applied =>
      entry .info operator "resize_applied" "Resize applied"
        (subject ++ [verdict] ++ move ++ [("utilization", .real decision.utilization)])
  | .skipped reason =>
      if decision.isChange then
        entry .info operator "resize_skipped" "Resize skipped"
          (subject ++ [verdict, ("reason", .text reason.message)])
      else ⟨.debug, "Dimension unchanged", subject⟩
  | .failed reason =>
      entry .warn operator "resize_failed" "Resize failed"
        (subject ++ [verdict] ++ move ++ [("reason", .text reason)])

/-- What became of both dimensions of a plan. -/
def outcome (operator : String) (outcome : Outcome) : List Event :=
  Dimension.all.map (Journal.dimension operator outcome)

/-- All events about a finished cycle. -/
def report (operator : String) (report : CycleReport) : List Event :=
  report.outcomes.flatMap (Journal.outcome operator) ++ [completed operator report]

end PodSizing.Journal
