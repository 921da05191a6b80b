import PodSizing.Operator.Cycle
import PodSizing.Proofs.Executor.Execute

/-!
# The cycles of a controller

`Controller.CycleStep` says what can come of a cycle: it fails before anything is applied, or its
plans are applied by an execution of its own, which accounts for all of them.  The observation alone
decides which of the two.
-/

namespace PodSizing

/-- No cycle can go on from the observation: nothing could be listed, or nothing of what was listed
could be measured. -/
inductive Observation.FailsWith : Observation → CycleError → Prop
  | unlisted {message : String} : FailsWith (.error message) (.targetsUnavailable message)
  | unmeasured {readings : List (Target × Reading)} (listed : readings ≠ [])
      (without : ∀ reading ∈ readings, ∀ sample, reading.2 ≠ .measured sample) :
      FailsWith (.ok readings) (.noSamples readings.length)

/-- What is noted about the provider when a cycle fails. -/
def CycleError.providerNote : CycleError → String
  | .targetsUnavailable reason => reason
  | .noSamples _ => "no usage samples available"

theorem Reading.sample?_eq_none_iff {reading : Reading} :
    reading.sample? = none ↔ ∀ sample, reading ≠ .measured sample := by
  cases reading <;> simp [Reading.sample?]

namespace Observation

namespace FailsWith

theorem iff_of_ok {readings : List (Target × Reading)} {error : CycleError} :
    FailsWith (.ok readings) error ↔ error = .noSamples readings.length ∧ readings ≠ [] ∧
      (readings.filterMap fun reading => reading.2.sample?) = [] := by
  simp only [List.filterMap_eq_nil_iff, Reading.sample?_eq_none_iff]
  constructor
  · intro fails
    cases fails with
    | unmeasured listed without => exact ⟨rfl, listed, without⟩
  · rintro ⟨rfl, listed, without⟩
    exact .unmeasured listed without

end FailsWith

/-- From an observation of use there are readings to go on with. -/
theorem exists_readings_of_usable {observation : Observation}
    (usable : ∀ error, ¬ observation.FailsWith error) :
    ∃ readings, observation = .ok readings := by
  cases observation with
  | error message => exact absurd .unlisted (usable (.targetsUnavailable message))
  | ok readings => exact ⟨readings, rfl⟩

end Observation

namespace Operator

variable (operator : Operator) (now wall : Instant)

theorem assess_of_failsWith {observation : Observation} {error : CycleError}
    (fails : observation.FailsWith error) :
    operator.assess now wall observation =
      ({ operator with
          health := operator.health.noteDegraded .provider error.providerNote wall },
        .error error) := by
  cases fails with
  | unlisted => rfl
  | unmeasured listed without =>
      have unusable := (Observation.FailsWith.iff_of_ok.mp (.unmeasured listed without)).2
      simp only [assess, if_pos unusable]
      rfl

theorem assess_of_usable {readings : List (Target × Reading)}
    (usable : ∀ error, ¬ Observation.FailsWith (.ok readings) error) :
    operator.assess now wall (.ok readings) =
      let samples := readings.filterMap fun reading => reading.2.sample?
      ({ operator with health := operator.health.noteHealthy .provider wall },
        .ok ⟨samples, readings.length - samples.length, operator.plansFor now samples⟩) := by
  have sampled : ¬ (readings ≠ [] ∧
      (readings.filterMap fun reading => reading.2.sample?) = []) :=
    fun unusable => usable _ (Observation.FailsWith.iff_of_ok.mpr ⟨rfl, unusable⟩)
  simp only [assess, if_neg sampled]

end Operator

namespace Execution

/-- The outcomes of an execution are proper. -/
theorem proper_of_execute {settings : ExecutorSettings} {before after : List Action}
    {start executor : Executor} {plans : List Plan} {batchSize concurrency : Nat}
    {execution : Execution}
    (reached : (Executor.ofSettings settings).run? before = some start)
    (run : start.run? (.execute plans batchSize concurrency :: after) = some executor)
    (here : executor.executions[start.executions.length]? = some execution)
    (returned : execution.stage = .returned) :
    execution.AccountsFor plans batchSize (executor.callsOf start.executions.length) ∧
      ∀ outcome ∈ execution.outcomes, outcome.IsProper := by
  obtain ⟨same, finished, putOff, there, sound⟩ := Executor.exists_sound_of_execute reached run
  obtain rfl : execution = same := Option.some.inj (here.symm.trans there)
  exact ⟨sound.accountsFor (by rw [returned]; rfl), sound.proper⟩

end Execution

namespace Controller

/-- The executor has come to its state by a run. -/
def IsReachable (controller : Controller) : Prop :=
  ∃ actions, (Executor.ofSettings controller.operator.settings).run? actions =
    some controller.executor

theorem isReachable_ofOperator (operator : Operator) : (ofOperator operator).IsReachable :=
  ⟨[], rfl⟩

/-- What can come of a cycle. -/
inductive CycleStep (controller : Controller) (cycle : Cycle) :
    Controller → CycleRecord → Prop
  | failed {operator : Operator} {error : CycleError}
      (policy : operator.policy = controller.operator.policy)
      (cooldowns : operator.cooldowns = controller.operator.cooldowns) :
      CycleStep controller cycle ⟨operator, controller.executor⟩ ⟨cycle, [], [], .error error⟩
  | applied {operator : Operator} {executor : Executor} {execution : Execution}
      {readings : List (Target × Reading)} {calls : List Call} {report : CycleReport}
      (observed : cycle.observation = .ok readings)
      (policy : operator.policy = controller.operator.policy)
      (cooldowns : operator.cooldowns =
        (controller.operator.recordChanges cycle.now cycle.wall execution.outcomes).prune cycle.now
          controller.operator.policy.cooldown)
      (accounts : execution.AccountsFor (controller.operator.plansFor cycle.now
        (readings.filterMap fun reading => reading.2.sample?))
        controller.operator.settings.batchSize calls)
      (proper : ∀ outcome ∈ execution.outcomes, outcome.IsProper)
      (outcomes : report.outcomes = execution.outcomes) :
      CycleStep controller cycle ⟨operator, executor⟩
        ⟨cycle, controller.operator.plansFor cycle.now
          (readings.filterMap fun reading => reading.2.sample?), calls, .ok report⟩

variable {controller next : Controller} {cycle : Cycle} {record : CycleRecord}

/-- A cycle whose observation is of no use fails at once, whatever its schedule is. -/
theorem runCycle?_of_failsWith {error : CycleError} (fails : cycle.observation.FailsWith error) :
    controller.runCycle? cycle =
      some (⟨{ controller.operator with
          health := controller.operator.health.noteDegraded .provider error.providerNote
            cycle.wall }, controller.executor⟩, ⟨cycle, [], [], .error error⟩) := by
  rw [runCycle?, Operator.assess_of_failsWith _ _ _ fails]

/-- A cycle with an observation of use ends when the execution of its plans returns, with the report
of this execution. -/
theorem runCycle?_eq_some_iff_of_usable {readings : List (Target × Reading)}
    (observed : cycle.observation = .ok readings)
    (usable : ∀ error, ¬ cycle.observation.FailsWith error) :
    controller.runCycle? cycle = some (next, record) ↔
      let operator := controller.operator
      let samples := readings.filterMap fun reading => reading.2.sample?
      let plans := operator.plansFor cycle.now samples
      let number := controller.executor.executions.length
      ∃ executor execution,
        controller.executor.run? (.execute plans operator.settings.batchSize
          operator.settings.concurrency :: cycle.schedule) = some executor ∧
        executor.executions[number]? = some execution ∧ execution.stage = .returned ∧
        let concluded :=
          { operator with health := operator.health.noteHealthy .provider cycle.wall }.conclude
            cycle.now cycle.wall cycle.finish ⟨samples, readings.length - samples.length, plans⟩
            execution.outcomes execution.deferred
        next = ⟨concluded.1, executor⟩ ∧
          record = ⟨cycle, plans, executor.callsOf number, .ok concluded.2⟩ := by
  rw [observed] at usable
  simp only [runCycle?, observed, Operator.assess_of_usable _ _ _ usable, Option.bind_eq_bind,
    Option.bind_eq_some_iff]
  constructor
  · rintro ⟨executor, run, execution, here, concluded⟩
    split at concluded
    · rename_i returned
      cases concluded
      exact ⟨executor, execution, run, here, returned, rfl, rfl⟩
    · contradiction
  · rintro ⟨executor, execution, run, here, returned, rfl, rfl⟩
    refine ⟨executor, run, execution, here, ?_⟩
    rw [returned]

/-- A cycle fails before anything is handed over, or the execution of its plans returns and is
reported. -/
theorem runCycle?_cases (ran : controller.runCycle? cycle = some (next, record)) :
    (∃ operator error, next = ⟨operator, controller.executor⟩ ∧
      record = ⟨cycle, [], [], .error error⟩ ∧
      operator.settings = controller.operator.settings ∧
      operator.policy = controller.operator.policy ∧
      operator.cooldowns = controller.operator.cooldowns) ∨
    ∃ readings operator executor execution,
      cycle.observation = .ok readings ∧ next = ⟨operator, executor⟩ ∧
      operator.settings = controller.operator.settings ∧
      operator.policy = controller.operator.policy ∧
      operator.cooldowns =
        (controller.operator.recordChanges cycle.now cycle.wall execution.outcomes).prune cycle.now
          controller.operator.policy.cooldown ∧
      let samples := readings.filterMap fun reading => reading.2.sample?
      let plans := controller.operator.plansFor cycle.now samples
      let number := controller.executor.executions.length
      controller.executor.run? (.execute plans controller.operator.settings.batchSize
        controller.operator.settings.concurrency :: cycle.schedule) = some executor ∧
      executor.executions[number]? = some execution ∧ execution.stage = .returned ∧
      record = ⟨cycle, plans, executor.callsOf number, .ok ⟨cycle.now, samples.length,
        readings.length - samples.length, plans.length, execution.deferred.length,
        execution.outcomes⟩⟩ := by
  by_cases fails : ∃ error, cycle.observation.FailsWith error
  · obtain ⟨error, fails⟩ := fails
    rw [runCycle?_of_failsWith fails] at ran
    cases ran
    exact .inl ⟨_, _, rfl, rfl, rfl, rfl, rfl⟩
  · rw [not_exists] at fails
    obtain ⟨readings, observed⟩ := Observation.exists_readings_of_usable fails
    obtain ⟨executor, execution, run, here, returned, rfl, rfl⟩ :=
      (runCycle?_eq_some_iff_of_usable observed fails).mp ran
    exact .inr ⟨readings, _, executor, execution, observed, rfl, rfl, rfl, rfl, run, here, returned,
      rfl⟩

/-- Every cycle is one of the steps, and leaves a state that can be reached. -/
theorem CycleStep.of_runCycle? (reachable : controller.IsReachable)
    (ran : controller.runCycle? cycle = some (next, record)) :
    CycleStep controller cycle next record ∧ next.IsReachable := by
  obtain ⟨actions, reached⟩ := reachable
  rcases runCycle?_cases ran with
    ⟨operator, error, rfl, rfl, settings, policy, cooldowns⟩ |
    ⟨readings, operator, executor, execution, observed, rfl, settings, policy, cooldowns, run, here,
      returned, rfl⟩
  · exact ⟨.failed policy cooldowns, actions, settings ▸ reached⟩
  · obtain ⟨accounts, proper⟩ := Execution.proper_of_execute reached run here returned
    exact ⟨.applied observed policy cooldowns accounts proper rfl, _,
      settings ▸ Executor.run?_trans reached run⟩

end Controller

end PodSizing
