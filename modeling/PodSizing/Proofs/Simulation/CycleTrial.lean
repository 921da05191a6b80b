import PodSizing.Operator.Reconciler
import PodSizing.Simulation.CycleTrial

/-!
# Simulated cycles are cycles

What a simulation does to an executor is a run of the executor, and a simulated cycle whose plans
were applied to the end is a cycle of the controller with a schedule of its own.  The same holds of
cycles that are reported.
-/

namespace PodSizing.Simulation

namespace Trial

private theorem executor_foldl_noteStart (calls : List Call) (trial : Trial) :
    (calls.foldl noteStart trial).executor = trial.executor := by
  induction calls generalizing trial with
  | nil => rfl
  | cons call rest ih =>
      rw [List.foldl_cons]
      exact ih (trial.noteStart call)

private theorem execution_foldl_noteStart (calls : List Call) (trial : Trial) :
    (calls.foldl noteStart trial).execution = trial.execution := by
  induction calls generalizing trial with
  | nil => rfl
  | cons call rest ih =>
      rw [List.foldl_cons]
      exact ih (trial.noteStart call)

private theorem execution_noteEnd (trial : Trial) (action : Action) :
    (trial.noteEnd action).execution = trial.execution := by
  unfold noteEnd
  split <;> rfl

/-- A simulated step is a step of the executor, and the same execution is followed. -/
private theorem executor_of_step? {trial next : Trial} (step : trial.step? = some next) :
    (∃ action, trial.executor.step? action = some next.executor) ∧
      next.execution = trial.execution := by
  simp only [step?, Option.bind_eq_bind, Option.bind_eq_some_iff] at step
  rcases step with ⟨action, -, executor, stepped, made⟩
  cases made
  rw [executor_foldl_noteStart, execution_foldl_noteStart]
  exact ⟨⟨action, stepped⟩, execution_noteEnd trial action⟩

/-- A simulation is a run of its executor. -/
theorem exists_run_of_advance (fuel : Nat) (trial : Trial) :
    (∃ actions, trial.executor.run? actions = some (advance fuel trial).executor) ∧
      (advance fuel trial).execution = trial.execution := by
  induction fuel generalizing trial with
  | zero => exact ⟨⟨[], rfl⟩, rfl⟩
  | succ fuel ih =>
      rw [advance]
      cases step : trial.step? with
      | none => exact ⟨⟨[], rfl⟩, rfl⟩
      | some next =>
          obtain ⟨⟨actions, run⟩, followed⟩ := ih next
          obtain ⟨⟨action, stepped⟩, same⟩ := executor_of_step? step
          refine ⟨⟨action :: actions, ?_⟩, followed.trans same⟩
          rw [Executor.run?, stepped]
          exact run

/-- The application of plans in a simulation is the run of an execution of its own. -/
theorem exists_run_of_apply (trial : Trial) (plans : List Plan) (batchSize concurrency : Nat) :
    ∃ schedule, trial.executor.run? (.execute plans batchSize concurrency :: schedule) =
      some (trial.apply plans batchSize concurrency).executor ∧
        (trial.apply plans batchSize concurrency).followed? =
          (trial.apply plans batchSize concurrency).executor.executions[
            trial.executor.executions.length]? := by
  obtain ⟨⟨schedule, run⟩, followed⟩ := exists_run_of_advance (stepsFor plans.length)
    { trial with
      executor := (trial.executor.step? (.execute plans batchSize concurrency)).getD trial.executor
      execution := trial.executor.executions.length
      last := none }
  refine ⟨schedule, ?_, ?_⟩
  · rw [Executor.run?]
    exact run
  · rw [followed?]
    exact congrArg (fun number => _[number]?) followed

private theorem outcomes_eq {trial : Trial} {execution : Execution}
    (followed : trial.followed? = some execution) : trial.outcomes = execution.outcomes := by
  rw [outcomes, followed, Option.map_some, Option.getD_some]

private theorem deferred_eq {trial : Trial} {execution : Execution}
    (followed : trial.followed? = some execution) : trial.deferred = execution.deferred := by
  rw [deferred, followed, Option.map_some, Option.getD_some]

end Trial

namespace CycleTrial

/-- A simulated cycle is a cycle of the controller, if its plans were applied to the end. -/
theorem exists_runCycle?_eq (operator : Operator) (trial : Trial) (now wall : Instant)
    (observation : Observation)
    (ended : ∀ report, (run operator trial now wall observation).result = .ok report →
      ∃ execution, (run operator trial now wall observation).trial.followed? = some execution ∧
        execution.stage = .returned) :
    ∃ schedule record, Controller.runCycle? ⟨operator, trial.executor⟩
        ⟨now, wall, observation, schedule, applicationTime wall⟩ =
          some (⟨(run operator trial now wall observation).operator,
            (run operator trial now wall observation).trial.executor⟩, record) ∧
      record.result = (run operator trial now wall observation).result := by
  rw [run] at ended ⊢
  rcases assessed : operator.assess now wall observation with ⟨noted, error | assessment⟩
  · refine ⟨[], ?_⟩
    simp [Controller.runCycle?, assessed]
  · rw [assessed] at ended
    obtain ⟨execution, followed, returned⟩ := ended _ rfl
    obtain ⟨schedule, ran, sameExecution⟩ := Trial.exists_run_of_apply
      { trial with now := applicationTime wall } assessment.plans noted.settings.batchSize
      noted.settings.concurrency
    have outcomes := Trial.outcomes_eq followed
    have deferred := Trial.deferred_eq followed
    have here := sameExecution.symm.trans followed
    refine ⟨schedule, ?_⟩
    simp only at outcomes deferred here ran
    simp only [Controller.runCycle?, assessed, Option.bind_eq_bind, ran, Option.bind_some, here,
      returned, outcomes, deferred]
    exact ⟨_, rfl, rfl⟩

/-- A simulated cycle that is reported is a cycle of the reconciler, if its plans were applied to the
end. -/
theorem exists_reconcile?_eq (operator : Operator) (trial : Trial) (wall : Instant)
    (observation : Observation) (notices : List Notice)
    (ended : ∀ report, (runOnce operator trial wall observation).result = .ok report →
      ∃ execution, (runOnce operator trial wall observation).trial.followed? = some execution ∧
        execution.stage = .returned) :
    ∃ schedule next record, Reconciler.reconcile? ⟨⟨operator, trial.executor⟩, notices⟩
        ⟨wall, wall, observation, schedule, applicationTime wall⟩ = some (next, record) ∧
      let ran := runOnce operator trial wall observation
      next.controller = ⟨ran.operator, ran.trial.executor⟩ ∧ record.result = ran.result ∧
      next.notices = notices ++ [.ofResult wall ran.result] := by
  obtain ⟨schedule, record, ran, result⟩ := exists_runCycle?_eq operator trial wall wall observation
    ended
  refine ⟨schedule, ⟨_, _⟩, record, Reconciler.reconcile?_eq_some_iff.mpr ⟨_, ran, rfl, rfl⟩, ?_,
    result, ?_⟩
  · rw [result]
    rfl
  · rw [result]
    rfl

end CycleTrial

end PodSizing.Simulation
