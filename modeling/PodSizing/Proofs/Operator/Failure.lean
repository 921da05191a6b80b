import PodSizing.Operator.Reconciler
import PodSizing.Proofs.Operator.Accounting

/-!
# Failed cycles

A cycle fails exactly when no cycle can go on from its observation.  It has not handed over any plan
then: the executor is as before, nothing is recorded or forgotten about earlier changes, and the
reporter is told of the failure once.  What the runtime does cannot make a cycle fail: with any
other observation the cycle can be brought to an end from wherever it is, and it ends in a report.
-/

namespace PodSizing

namespace Operator

/-- The action by which the plans for what was measured are handed over. -/
def handOver (operator : Operator) (now : Instant) (readings : List (Target × Reading)) : Action :=
  .execute (operator.plansFor now (readings.filterMap fun reading => reading.2.sample?))
    operator.settings.batchSize operator.settings.concurrency

/-- The operators differ at most in what is noted about the provider, the reconciler and the cycles
so far. -/
structure AgreeButForFailure (before after : Operator) : Prop where
  policy : after.policy = before.policy
  settings : after.settings = before.settings
  cooldowns : after.cooldowns = before.cooldowns
  executor : after.health.executor = before.health.executor
  scheduled : after.health.scheduled = before.health.scheduled

namespace AgreeButForFailure

variable {before middle after : Operator}

theorem trans (first : AgreeButForFailure before middle)
    (second : AgreeButForFailure middle after) : AgreeButForFailure before after where
  policy := second.policy.trans first.policy
  settings := second.settings.trans first.settings
  cooldowns := second.cooldowns.trans first.cooldowns
  executor := second.executor.trans first.executor
  scheduled := second.scheduled.trans first.scheduled

theorem noteDegraded (operator : Operator) (message : String) (wall : Instant) :
    AgreeButForFailure operator
      { operator with health := operator.health.noteDegraded .provider message wall } :=
  ⟨rfl, rfl, rfl, rfl, rfl⟩

theorem settle (operator : Operator) (now finish : Instant) (error : CycleError) :
    AgreeButForFailure operator (operator.settle now finish (.error error)) := by
  rw [Operator.settle, HealthRegistry.recordFailure]
  split <;> exact ⟨rfl, rfl, rfl, rfl, rfl⟩

end AgreeButForFailure

end Operator

namespace Controller

variable {controller next : Controller} {cycle : Cycle} {record : CycleRecord}

/-- Whether a cycle fails, and how, is decided by its observation. -/
theorem result_eq_error_iff (ran : controller.runCycle? cycle = some (next, record))
    (error : CycleError) :
    record.result = .error error ↔ cycle.observation.FailsWith error := by
  constructor
  · intro failed
    by_cases fails : ∃ other, cycle.observation.FailsWith other
    · obtain ⟨other, fails⟩ := fails
      rw [runCycle?_of_failsWith fails] at ran
      cases ran
      cases failed
      exact fails
    · rw [not_exists] at fails
      obtain ⟨readings, observed⟩ := Observation.exists_readings_of_usable fails
      obtain ⟨executor, execution, run, here, returned, -, rfl⟩ :=
        (runCycle?_eq_some_iff_of_usable observed fails).mp ran
      contradiction
  · intro fails
    rw [runCycle?_of_failsWith fails] at ran
    cases ran
    rfl

/-- From whatever has happened since the plans were handed over, a cycle with an observation of use
can be brought to an end, and it ends in a report. -/
theorem exists_report_of_usable (runtime : Runtime) (reachable : controller.IsReachable)
    {readings : List (Target × Reading)} (observed : cycle.observation = .ok readings)
    (usable : ∀ error, ¬ cycle.observation.FailsWith error) {executor : Executor}
    (run : controller.executor.run?
      (controller.operator.handOver cycle.now readings :: cycle.schedule) = some executor) :
    ∃ later next record report, executor.Follows runtime.allows later ∧
      controller.runCycle? { cycle with schedule := cycle.schedule ++ later } =
        some (next, record) ∧ record.result = .ok report := by
  obtain ⟨actions, reached⟩ := reachable
  have sound := Executor.locks_sound_of_run? (Executor.run?_trans reached run)
  obtain ⟨later, last, continued, follows, -, allReturned⟩ :=
    Executor.exists_allReturned runtime sound
  have whole := Executor.run?_trans run continued
  obtain ⟨execution, -, -, here, -⟩ := Executor.exists_sound_of_execute reached whole
  let longer : Cycle := { cycle with schedule := cycle.schedule ++ later }
  have stillObserved : longer.observation = .ok readings := observed
  exact ⟨later, _, _, _, follows, (runCycle?_eq_some_iff_of_usable stillObserved usable).mpr
    ⟨last, execution, whole, here, allReturned execution (List.mem_of_getElem? here), rfl, rfl⟩,
    rfl⟩

end Controller

namespace Reconciler

/-- A reported cycle leaves a state that can be reached. -/
theorem isReachable_of_reconcile? {reconciler next : Reconciler} {cycle : Cycle}
    {record : CycleRecord} (reachable : reconciler.controller.IsReachable)
    (ran : reconciler.reconcile? cycle = some (next, record)) : next.controller.IsReachable := by
  obtain ⟨after, ran, settled, -⟩ := reconcile?_eq_some_iff.mp ran
  obtain ⟨actions, reached⟩ := (Controller.CycleStep.of_runCycle? reachable ran).2
  refine ⟨actions, ?_⟩
  rw [settled]
  cases record.result <;> exact reached

/-- A cycle fails if nothing could be listed or nothing of what was listed could be measured, and
for no other reason.  A failed cycle has made no call, the executor and what is known of earlier
changes are as before, and so is the note about the executor; all that differs is what is noted
about the provider, the reconciler and the cycles, and the reporter is told of this failure and
nothing else.  With any other observation every beginning of the cycle can be carried on, whatever
the runtime does, until the cycle ends with a report. -/
theorem failed_cycle_changes_only_health {reconciler : Reconciler} {cycle : Cycle}
    (reachable : reconciler.controller.IsReachable) :
    let controller := reconciler.controller
    (∀ after record, controller.runCycle? cycle = some (after, record) →
      ∀ error, record.result = .error error ↔ cycle.observation.FailsWith error) ∧
    (∀ error, cycle.observation.FailsWith error →
      ∃ after next, controller.runCycle? cycle = some (after, ⟨cycle, [], [], .error error⟩) ∧
        reconciler.reconcile? cycle = some (next, ⟨cycle, [], [], .error error⟩) ∧
        after.executor = controller.executor ∧ next.controller.executor = controller.executor ∧
        controller.operator.AgreeButForFailure after.operator ∧
        controller.operator.AgreeButForFailure next.controller.operator ∧
        next.notices = reconciler.notices ++ [.failed cycle.now error]) ∧
    ∀ readings, cycle.observation = .ok readings →
      (∀ error, ¬ cycle.observation.FailsWith error) →
      ∀ (runtime : Runtime) (executor : Executor),
        controller.executor.run?
          (controller.operator.handOver cycle.now readings :: cycle.schedule) = some executor →
        ∃ later next record report, executor.Follows runtime.allows later ∧
          reconciler.reconcile? { cycle with schedule := cycle.schedule ++ later } =
            some (next, record) ∧ record.result = .ok report ∧
          next.notices = reconciler.notices ++ [.completed report] := by
  intro controller
  refine ⟨?_, ?_, ?_⟩
  · exact fun after record ran => Controller.result_eq_error_iff ran
  · intro error fails
    have ran : controller.runCycle? cycle = _ := Controller.runCycle?_of_failsWith fails
    refine ⟨_, ⟨_, _⟩, ran, reconcile?_eq_some_iff.mpr ⟨_, ran, rfl, rfl⟩, rfl, rfl, ?_, ?_, rfl⟩
    · exact .noteDegraded controller.operator error.providerNote cycle.wall
    · exact .trans (.noteDegraded controller.operator error.providerNote cycle.wall)
        (.settle _ cycle.now cycle.finish error)
  · intro readings observed usable runtime executor run
    obtain ⟨later, after, record, report, follows, ran, reports⟩ :=
      Controller.exists_report_of_usable runtime reachable observed usable run
    refine ⟨later, ⟨_, _⟩, record, report, follows,
      reconcile?_eq_some_iff.mpr ⟨after, ran, rfl, rfl⟩, reports, ?_⟩
    rw [reports]
    rfl

/-- Long after the late cycle, one target has no usage and that of another cannot be read. -/
def blindCycle : Cycle where
  now := Controller.instantAt 5000
  wall := Controller.instantAt 9000
  observation := .ok [((Controller.usingMemory "web" 0).1, .unavailable),
    ((Controller.usingMemory "db" 0).1, .failed "connection refused")]
  schedule := []
  finish := Controller.instantAt 9001

/-- The cooldown of the first cycle is over, but it is not forgotten in a cycle that fails. -/
theorem failed_cycle_changes_only_health_blind :
    ∃ used first next record report,
      (ofOperator Controller.lateOperator).reconcile? Controller.lateCycle = some (used, first) ∧
      used.reconcile? blindCycle = some (next, record) ∧
      record.result = .error (.noSamples 2) ∧ record.calls = [] ∧
      next.controller.executor.calls.length = 1 ∧
      next.controller.operator.cooldowns.get? (Controller.appOf "web", .memory) =
        some (Controller.instantAt 1007) ∧
      next.notices = [.completed report, .failed (Controller.instantAt 5000) (.noSamples 2)] := by
  let start := ofOperator Controller.lateOperator
  let ran := (start.reconcile? Controller.lateCycle).get (by decide +kernel)
  have begun : start.reconcile? Controller.lateCycle = some (ran.1, ran.2) :=
    (Option.some_get _).symm
  have reachable := isReachable_of_reconcile? (Controller.isReachable_ofOperator _) begun
  have fails : blindCycle.observation.FailsWith (.noSamples 2) :=
    .unmeasured (by simp) (by simp)
  obtain ⟨after, next, -, failed, -, executor, -, agrees, notices⟩ :=
    (failed_cycle_changes_only_health reachable).2.1 _ fails
  let report := (ran.2.result.toOption).get (by decide +kernel)
  have told : ran.1.notices = [.completed report] := by decide +kernel
  refine ⟨ran.1, ran.2, next, _, report, begun, failed, rfl, rfl, ?_, ?_, ?_⟩
  · rw [executor]
    decide +kernel
  · rw [agrees.cooldowns]
    decide +kernel
  · rw [notices, told]
    rfl

end Reconciler

end PodSizing
