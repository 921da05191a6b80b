import PodSizing.Health
import PodSizing.Journal
import PodSizing.Plan

/-!
# The operator

The operator works in cycles.  A cycle begins with an observation: the containers to look at and
the usage of each.  `Operator.assess` turns it into plans, or fails when nothing could be
observed.  After the plans were applied, `Operator.conclude` starts the rest of every dimension
that was changed, forgets the rests that are over, notes the health of the parts and writes the
report.  `Operator.settle` notes how the whole cycle went.

The instant as of which a cycle runs is given; what happens during the cycle is read from the
wall clock and moved to the clock of the cycle.
-/

namespace PodSizing

/-- What was learnt about the usage of one container. -/
inductive Reading where
  | measured (sample : Sample)
  /-- There is no usage for the container in this cycle. -/
  | unavailable
  /-- The usage could not be read. -/
  | failed (message : String)
  deriving DecidableEq

namespace Reading

/-- The sample, if the container could be measured. -/
def sample? : Reading → Option Sample
  | .measured sample => some sample
  | _ => none

/-- The event for a container that is left out. -/
def events (target : Target) : Reading → List Event
  | .measured _ => []
  | .unavailable =>
      [⟨.debug, "Usage unavailable, skipping this cycle",
        [("container", .text target.container.toText)]⟩]
  | .failed message =>
      [⟨.warn, "Failed to sample usage",
        [("container", .text target.container.toText), ("error", .text message)]⟩]

end Reading

/-- What a cycle begins with: the containers to look at, each with its usage, or why they could
not be listed. -/
abbrev Observation := Except String (List (Target × Reading))

/-- What a cycle made of its observation. -/
structure Assessment where
  samples : List Sample
  /-- Containers without a sample. -/
  unavailable : Nat
  plans : List Plan
  deriving DecidableEq

/-- What the operator knows from one cycle to the next. -/
structure Operator where
  policy : Policy
  settings : ExecutorSettings
  cooldowns : CooldownTable
  health : HealthRegistry

namespace Operator

/-- The plans for some samples, in their order.  A policy that was checked has one for every
sample; of these the plans that change something are kept. -/
def plansFor (operator : Operator) (now : Instant) (samples : List Sample) : List Plan :=
  Plan.selectChanges (samples.filterMap (operator.policy.assess? operator.cooldowns now))

/-- The first half of a cycle as of `now`, on a wall clock that shows `wall`. -/
def assess (operator : Operator) (now wall : Instant) (observation : Observation) :
    Operator × Except CycleError Assessment :=
  match observation with
  | .error message =>
      ({ operator with health := operator.health.noteDegraded .provider message wall },
        .error (.targetsUnavailable message))
  | .ok readings =>
      let samples := readings.filterMap fun reading => reading.2.sample?
      if readings ≠ [] ∧ samples = [] then
        ({ operator with
            health := operator.health.noteDegraded .provider "no usage samples available" wall },
          .error (.noSamples readings.length))
      else
        ({ operator with health := operator.health.noteHealthy .provider wall },
          .ok ⟨samples, readings.length - samples.length, operator.plansFor now samples⟩)

/-- The events of the first half of a cycle. -/
def assessEvents (operator : Operator) (now : Instant) : Observation → List Event
  | .error _ => []
  | .ok readings =>
      let samples := readings.filterMap fun reading => reading.2.sample?
      (readings.flatMap fun (target, reading) => reading.events target) ++
        samples.flatMap (operator.policy.assessEvents operator.cooldowns now)

/-- An instant of the wall clock on the clock of a cycle that ran as of `now` when the wall clock
showed `wall`.  An instant that would be out of range counts as `now`. -/
def onCycleClock (now wall observed : Instant) : Instant :=
  (now.add? (observed.since wall)).getD now

/-- The dimensions that were changed, with the instant of the wall clock at which each was. -/
def changesOf (outcomes : List Outcome) : List (CooldownKey × Instant) :=
  outcomes.flatMap fun outcome =>
    (outcome.plan.changing.filter fun dimension =>
      (outcome.statuses.get dimension).isApplied).map fun dimension =>
        ((outcome.plan.container, dimension), outcome.appliedAt.instant)

/-- The cooldowns with the changes of a cycle, before those that are over are forgotten. -/
def recordChanges (operator : Operator) (now wall : Instant) (outcomes : List Outcome) :
    CooldownTable :=
  (changesOf outcomes).foldl (fun table (key, observed) =>
    table.record key (onCycleClock now wall observed)) operator.cooldowns

/-- Some dimension of some plan failed. -/
def anyFailed (outcomes : List Outcome) : Bool := outcomes.any Outcome.anyFailed

/-- The second half of a cycle, after its plans were applied or put off.  The wall clock showed
`wall` at its start and shows `finish` now. -/
def conclude (operator : Operator) (now wall finish : Instant) (assessment : Assessment)
    (outcomes : List Outcome) (deferred : List Plan) : Operator × CycleReport :=
  let recorded := operator.recordChanges now wall outcomes
  let health :=
    if anyFailed outcomes then
      operator.health.noteDegraded .executor "resize failures in last cycle" finish
    else operator.health.noteHealthy .executor finish
  ({ operator with cooldowns := recorded.prune now operator.policy.cooldown, health },
    { timestamp := now
      evaluated := assessment.samples.length
      unavailable := assessment.unavailable
      plansBuilt := assessment.plans.length
      plansDeferred := deferred.length
      outcomes })

/-- The events of the second half of a cycle. -/
def concludeEvents (operator : Operator) (now wall : Instant) (outcomes : List Outcome) :
    List Event :=
  let pruned := (operator.recordChanges now wall outcomes).prunedCount now
    operator.policy.cooldown
  (changesOf outcomes).map (fun (key, _) => CooldownTable.recordEvent key) ++
    if pruned = 0 then []
    else [⟨.debug, "Pruned expired cooldown entries", [("pruned", .natural pruned)]⟩]

/-- Notes how a cycle as of `now` went as a whole. -/
def settle (operator : Operator) (now finish : Instant) :
    Except CycleError CycleReport → Operator
  | .ok _ => { operator with health := operator.health.recordSuccess now finish }
  | .error error =>
      { operator with health := operator.health.recordFailure now error.message finish }

/-- The events by which the journal tells of a cycle. -/
def resultEvents (name : String) : Except CycleError CycleReport → List Event
  | .ok report => Journal.report name report
  | .error error => [Journal.failed name error]

end Operator

end PodSizing
