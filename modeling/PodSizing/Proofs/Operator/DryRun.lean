import PodSizing.Proofs.Executor.DryRun
import PodSizing.Proofs.Operator.Failure
import PodSizing.Proofs.Operator.Health

/-!
# Dry runs over many cycles

What a dry run does is reported and nothing else: `Reconciler.IsTraceless` says what it leaves
behind, and every cycle keeps it.  As nothing is remembered, each cycle decides like the first cycle
of an operator that is put together anew, whether that one runs dry or not.
-/

namespace PodSizing

/-- No call was made in a cycle, and all its outcomes are dry. -/
structure CycleRecord.IsDry (record : CycleRecord) : Prop where
  calls : record.calls = []
  outcomes : ∀ outcome ∈ record.outcomes, outcome.IsDry

namespace Operator

/-- Nothing is to be remembered of dry outcomes. -/
theorem changesOf_eq_nil {outcomes : List Outcome}
    (dry : ∀ outcome ∈ outcomes, outcome.IsDry) : changesOf outcomes = [] := by
  rw [changesOf, List.flatMap_eq_nil_iff]
  intro outcome mem
  rw [List.map_eq_nil_iff, List.filter_eq_nil_iff]
  intro dimension _
  rw [dry outcome mem dimension]
  simp [Status.isApplied]

theorem anyFailed_eq_false_of_isDry {outcomes : List Outcome}
    (dry : ∀ outcome ∈ outcomes, outcome.IsDry) : anyFailed outcomes = false := by
  rw [anyFailed_eq_false_iff]
  intro outcome mem dimension reason
  rw [dry outcome mem dimension]
  exact nofun

/-- After dry outcomes the cooldowns are only rid of what is over. -/
theorem cooldowns_conclude_of_isDry (operator : Operator) (now wall finish : Instant)
    (assessment : Assessment) {outcomes : List Outcome} (deferred : List Plan)
    (dry : ∀ outcome ∈ outcomes, outcome.IsDry) :
    (operator.conclude now wall finish assessment outcomes deferred).1.cooldowns =
      operator.cooldowns.prune now operator.policy.cooldown := by
  simp only [conclude, recordChanges, changesOf_eq_nil dry, List.foldl_nil]

/-- Two operators make the same of all samples and of all observations. -/
structure DecidesLike (operator other : Operator) : Prop where
  decisions : ∀ now sample, operator.policy.assess? operator.cooldowns now sample =
    other.policy.assess? other.cooldowns now sample
  assessments : ∀ now wall observation,
    (operator.assess now wall observation).2 = (other.assess now wall observation).2

/-- What an operator decides hangs on its policy and its cooldowns alone. -/
theorem decidesLike_of_eq {operator other : Operator} (policy : operator.policy = other.policy)
    (cooldowns : operator.cooldowns = other.cooldowns) : operator.DecidesLike other where
  decisions now sample := by rw [policy, cooldowns]
  assessments now wall observation := by
    cases observation with
    | error message => rfl
    | ok readings =>
        simp only [assess, plansFor, policy, cooldowns]
        split <;> rfl

end Operator

namespace Controller

/-- A cycle hands over the plans of its assessment, and none when this fails. -/
theorem plans_of_runCycle? {controller next : Controller} {cycle : Cycle} {record : CycleRecord}
    (ran : controller.runCycle? cycle = some (next, record)) :
    record.plans =
      (controller.operator.assess cycle.now cycle.wall cycle.observation).2.toOption.elim []
        Assessment.plans := by
  by_cases fails : ∃ error, cycle.observation.FailsWith error
  · obtain ⟨error, fails⟩ := fails
    rw [runCycle?_of_failsWith fails] at ran
    cases ran
    rw [Operator.assess_of_failsWith _ _ _ fails]
    rfl
  · rw [not_exists] at fails
    obtain ⟨readings, observed⟩ := Observation.exists_readings_of_usable fails
    obtain ⟨executor, execution, -, -, -, -, rfl⟩ :=
      (runCycle?_eq_some_iff_of_usable observed fails).mp ran
    rw [observed] at fails
    rw [observed, Operator.assess_of_usable _ _ _ fails]
    rfl

end Controller

namespace Reconciler

variable {operator : Operator} {reconciler next last : Reconciler} {cycle : Cycle}
  {record : CycleRecord}

/-- What a dry run leaves of a reconciler for an operator: nothing was sent or locked, no change is
remembered, and the executor is noted as healthy unless nothing was noted about it since the
start. -/
structure IsTraceless (operator : Operator) (reconciler : Reconciler) : Prop where
  policy : reconciler.controller.operator.policy = operator.policy
  settings : reconciler.controller.operator.settings = operator.settings
  cooldowns : reconciler.controller.operator.cooldowns = .empty
  executor : reconciler.controller.executor.IsUntouched
  healthy : reconciler.health.status? .executor = some .healthy ∨
    reconciler.health.status? .executor = operator.health.status? .executor
  reachable : reconciler.controller.IsReachable

theorem isTraceless_ofOperator (fresh : operator.cooldowns = .empty) :
    (ofOperator operator).IsTraceless operator :=
  ⟨rfl, rfl, fresh, Executor.isUntouched_ofSettings _, .inr rfl,
    Controller.isReachable_ofOperator operator⟩

/-- A cycle of a dry run is dry and leaves no trace. -/
theorem IsTraceless.reconcile? (traceless : reconciler.IsTraceless operator)
    (dry : operator.settings.dryRun = true)
    (ran : reconciler.reconcile? cycle = some (next, record)) :
    next.IsTraceless operator ∧ record.IsDry := by
  have nextReachable := isReachable_of_reconcile? traceless.reachable ran
  obtain ⟨policy, settings, cooldowns, untouched, healthy, actions, reached⟩ := traceless
  obtain ⟨after, ran, settled, -⟩ := reconcile?_eq_some_iff.mp ran
  by_cases fails : ∃ error, cycle.observation.FailsWith error
  · obtain ⟨error, fails⟩ := fails
    rw [Controller.runCycle?_of_failsWith fails] at ran
    cases ran
    refine ⟨⟨?_, ?_, ?_, ?_, ?_, nextReachable⟩, ⟨rfl, by simp [CycleRecord.outcomes]⟩⟩
    · exact settled ▸ policy
    · exact settled ▸ settings
    · exact settled ▸ cooldowns
    · exact settled ▸ untouched
    · rw [health, settled, Operator.settle, HealthRegistry.status?_recordFailure,
        if_neg (by decide), HealthRegistry.noteDegraded, HealthRegistry.status?_note,
        if_neg (by decide)]
      exact healthy
  · rw [not_exists] at fails
    obtain ⟨readings, observed⟩ := Observation.exists_readings_of_usable fails
    obtain ⟨executor, execution, run, here, -, rfl, rfl⟩ :=
      (Controller.runCycle?_eq_some_iff_of_usable observed fails).mp ran
    rw [← settings] at dry
    obtain ⟨stillUntouched, outcomes⟩ := Executor.isDry_of_execute dry reached run here
    have noneFailed := Operator.anyFailed_eq_false_of_isDry outcomes
    refine ⟨⟨?_, ?_, ?_, ?_, .inl ?_, nextReachable⟩, ⟨?_, outcomes⟩⟩
    · exact settled ▸ policy
    · exact settled ▸ settings
    · rw [settled, Operator.settle, Operator.cooldowns_conclude_of_isDry _ _ _ _ _ _ outcomes,
        cooldowns]
      rfl
    · exact settled ▸ stillUntouched
    · rw [health, settled, Operator.settle, HealthRegistry.status?_recordSuccess,
        if_neg (by decide), Operator.health_conclude, noneFailed, HealthRegistry.status?_note]
      rfl
    · rw [Executor.callsOf, stillUntouched.uncalled, List.filter_nil]

/-- So are all cycles of a dry run. -/
theorem IsTraceless.reconcileAll? {cycles : List Cycle} {records : List CycleRecord}
    (traceless : reconciler.IsTraceless operator) (dry : operator.settings.dryRun = true)
    (ran : reconciler.reconcileAll? cycles = some (last, records)) :
    last.IsTraceless operator ∧ ∀ record ∈ records, record.IsDry := by
  induction cycles generalizing reconciler records with
  | nil =>
      cases ran
      exact ⟨traceless, by simp⟩
  | cons cycle rest ih =>
      obtain ⟨next, record, others, first, run, rfl⟩ := reconcileAll?_cons_eq_some_iff.mp ran
      obtain ⟨nextTraceless, recordDry⟩ := traceless.reconcile? dry first
      obtain ⟨lastTraceless, othersDry⟩ := ih nextTraceless run
      exact ⟨lastTraceless, List.forall_mem_cons.mpr ⟨recordDry, othersDry⟩⟩

/-- A run over several cycles comes to each of them after those before it. -/
theorem reconcileAll?_append_eq_some_iff {earlier later : List Cycle}
    {records : List CycleRecord} :
    reconciler.reconcileAll? (earlier ++ later) = some (last, records) ↔
      ∃ middle past future, reconciler.reconcileAll? earlier = some (middle, past) ∧
        middle.reconcileAll? later = some (last, future) ∧ records = past ++ future := by
  induction earlier generalizing reconciler records with
  | nil =>
      constructor
      · exact fun ran => ⟨reconciler, [], records, rfl, ran, rfl⟩
      · rintro ⟨middle, past, future, none_ran, ran, rfl⟩
        cases none_ran
        exact ran
  | cons cycle rest ih =>
      simp only [List.cons_append, reconcileAll?_cons_eq_some_iff, ih]
      constructor
      · rintro ⟨next, record, others, first, ⟨middle, past, future, before, after, rfl⟩, rfl⟩
        exact ⟨middle, record :: past, future, ⟨next, record, past, first, before, rfl⟩, after, rfl⟩
      · rintro ⟨middle, past, future, ⟨next, record, others, first, before, rfl⟩, after, rfl⟩
        exact ⟨next, record, others ++ future, first, ⟨middle, others, future, before, after, rfl⟩,
          rfl⟩

/-- From a dry run nothing remains: the runtime was never called and no lock was taken, no change is
remembered, and the executor is never noted as anything but healthy.  In each outcome, what would
have been changed is skipped because of the dry run and the rest because nothing changes there.
Each cycle decides like an operator with the same policy that is put together anew, dry or not, and
hands over the plans that this one hands over in a first cycle with the same observation. -/
theorem dry_run_leaves_no_trace {cycles : List Cycle} {records : List CycleRecord}
    (dry : operator.settings.dryRun = true) (fresh : operator.cooldowns = .empty)
    (ran : (ofOperator operator).reconcileAll? cycles = some (last, records)) :
    last.IsTraceless operator ∧ (∀ record ∈ records, record.IsDry) ∧
    ∀ earlier cycle later, cycles = earlier ++ cycle :: later →
      ∃ before after past record future,
        (ofOperator operator).reconcileAll? earlier = some (before, past) ∧
        before.reconcile? cycle = some (after, record) ∧
        after.reconcileAll? later = some (last, future) ∧ records = past ++ record :: future ∧
        before.IsTraceless operator ∧
        ∀ (settings : ExecutorSettings) (registry : HealthRegistry),
          let anew : Operator := ⟨operator.policy, settings, .empty, registry⟩
          before.controller.operator.DecidesLike anew ∧
          ∀ schedule finish done other,
            (ofOperator anew).reconcile? { cycle with schedule, finish } = some (done, other) →
            other.plans = record.plans := by
  have start := isTraceless_ofOperator fresh
  obtain ⟨lastTraceless, allDry⟩ := start.reconcileAll? dry ran
  refine ⟨lastTraceless, allDry, ?_⟩
  rintro earlier cycle later rfl
  obtain ⟨before, past, others, begun, rest, rfl⟩ := reconcileAll?_append_eq_some_iff.mp ran
  obtain ⟨after, record, future, here, ended, rfl⟩ := reconcileAll?_cons_eq_some_iff.mp rest
  obtain ⟨beforeTraceless, -⟩ := start.reconcileAll? dry begun
  refine ⟨before, after, past, record, future, begun, here, ended, rfl, beforeTraceless, ?_⟩
  intro settings registry anew
  have like : before.controller.operator.DecidesLike anew :=
    Operator.decidesLike_of_eq beforeTraceless.policy beforeTraceless.cooldowns
  refine ⟨like, ?_⟩
  intro schedule finish done other anewRan
  obtain ⟨_, ranDry, -⟩ := reconcile?_eq_some_iff.mp here
  obtain ⟨_, ranAnew, -⟩ := reconcile?_eq_some_iff.mp anewRan
  rw [Controller.plans_of_runCycle? ranDry, Controller.plans_of_runCycle? ranAnew,
    like.assessments]
  rfl

/-- What happens while the only plan of an execution is skipped. -/
def skipOnePlan (execution : Nat) : List Action :=
  [.turn execution, .work ⟨execution, 0⟩ .take, .work ⟨execution, 0⟩ (.lookUp default),
    .work ⟨execution, 0⟩ .take, .join execution default, .turn execution, .close execution]

/-- Ten seconds after a first dry run the pod is planned for once more, as by an operator that is
put together only then and calls the runtime. -/
theorem dry_run_leaves_no_trace_twice :
    ∃ last first second done other,
      let dryRun : ExecutorSettings := { ExecutorSettings.default with dryRun := true }
      (ofOperator ⟨.default, dryRun, .empty, .empty⟩).reconcileAll?
        [Controller.busyCycle 0 (skipOnePlan 0), Controller.busyCycle 10 (skipOnePlan 1)] =
          some (last, [first, second]) ∧
      first.plans.length = 1 ∧ second.plans.length = 1 ∧ second.calls = [] ∧
      (∀ outcome ∈ second.outcomes,
        outcome.statuses.get .memory = .skipped .dryRun) ∧ second.outcomes.length = 1 ∧
      last.controller.operator.cooldowns = .empty ∧ last.controller.executor.calls = [] ∧
      last.health.status? .executor = some .healthy ∧
      (ofOperator ⟨.default, .default, .empty, .empty⟩).reconcile?
        (Controller.busyCycle 10 (Controller.applyOnePlan 0 10)) = some (done, other) ∧
      other.plans = second.plans ∧ other.calls.length = 1 := by
  let operator : Operator :=
    ⟨.default, { ExecutorSettings.default with dryRun := true }, .empty, .empty⟩
  let cycles := [Controller.busyCycle 0 (skipOnePlan 0), Controller.busyCycle 10 (skipOnePlan 1)]
  let ran := ((ofOperator operator).reconcileAll? cycles).get (by decide +kernel)
  have run : (ofOperator operator).reconcileAll? cycles = some (ran.1, ran.2) :=
    (Option.some_get _).symm
  let anew : Operator := ⟨.default, .default, .empty, .empty⟩
  let realCycle := Controller.busyCycle 10 (Controller.applyOnePlan 0 10)
  let real := ((ofOperator anew).reconcile? realCycle).get (by decide +kernel)
  have realRun : (ofOperator anew).reconcile? realCycle = some (real.1, real.2) :=
    (Option.some_get _).symm
  obtain ⟨traceless, allDry, decides⟩ := dry_run_leaves_no_trace rfl rfl run
  obtain ⟨before, after, past, second, future, begun, here, ended, split, -, like⟩ :=
    decides [Controller.busyCycle 0 (skipOnePlan 0)]
      (Controller.busyCycle 10 (skipOnePlan 1)) [] rfl
  obtain ⟨-, samePlans⟩ := like .default .empty
  cases ended
  obtain ⟨first, rfl⟩ : ∃ first, past = [first] := by
    obtain ⟨next, record, others, -, none_left, rfl⟩ := reconcileAll?_cons_eq_some_iff.mp begun
    cases none_left
    exact ⟨record, rfl⟩
  rw [List.singleton_append] at split
  have isSecond : second ∈ ran.2 := by simp [split]
  have secondDry := allDry second isSecond
  have wanted : ∀ record ∈ ran.2, ∀ outcome ∈ record.outcomes, .memory ∈ outcome.plan.changing := by
    decide +kernel
  have sizes : ran.2.map (fun record => (record.plans.length, record.outcomes.length)) =
      [(1, 1), (1, 1)] := by decide +kernel
  simp only [split, List.map_cons, List.map_nil, List.cons.injEq, Prod.mk.injEq, and_true] at sizes
  obtain ⟨⟨firstPlanned, -⟩, secondPlanned, secondReported⟩ := sizes
  refine ⟨ran.1, first, second, real.1, real.2, split ▸ run, firstPlanned, secondPlanned,
    secondDry.calls, ?_, secondReported, traceless.cooldowns, traceless.executor.uncalled,
    traceless.healthy.resolve_right (by decide +kernel), realRun,
    samePlans realCycle.schedule realCycle.finish real.1 real.2 realRun, by decide +kernel⟩
  intro outcome mem
  rw [secondDry.outcomes outcome mem .memory, if_pos (wanted second isSecond outcome mem)]

end Reconciler

end PodSizing
