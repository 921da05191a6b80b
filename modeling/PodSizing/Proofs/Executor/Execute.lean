import PodSizing.Proofs.Executor.Accounting
import PodSizing.Proofs.Executor.Progress

/-!
# What becomes of an execution

An execution that is begun on an executor returns, whatever the runtime does, and its outcomes and
the plans put off are the plans that it was begun with.  Other executions may have been begun
before and may begin at any time.
-/

namespace PodSizing

namespace Execution

/-- The outcomes and the plans put off are the given plans, cut where a batch begins, and the calls
are for plans with an outcome. -/
structure AccountsFor (plans : List Plan) (batchSize : Nat) (calls : List Call)
    (execution : Execution) : Prop where
  complete : execution.outcomes.map Outcome.plan ++ execution.deferred = plans
  boundary : execution.deferred ≠ [] → max batchSize 1 ∣ execution.outcomes.length
  calls : ∀ call ∈ calls, call.position < execution.outcomes.length ∧
    ∃ plan attempt, plans[call.position]? = some plan ∧ call.request = plan.requestOf attempt

theorem Sound.accountsFor {order : Order} {calls : List Call} {execution : Execution}
    {finished putOff : List Batch} (sound : Sound order calls execution finished putOff)
    (isOver : execution.stage.isOver = true) :
    execution.AccountsFor order.plans order.batchSize calls where
  complete := sound.plans_eq isOver
  boundary := sound.dvd_length_outcomes
  calls _ mem :=
    ⟨sound.position_lt_of_call (Stage.batches_of_isOver isOver) mem, sound.plan_of_call mem⟩

/-- Nothing changes any more when no batch begins. -/
theorem Run.of_isOver {settings : ExecutorSettings} {allowed : Call → WorkerAction → Prop}
    {number : Nat} {first last : Execution} {made : List Call}
    (run : Run settings allowed number first made last) (isOver : first.stage.isOver = true) :
    last.stage.isOver = true ∧ last.outcomes = first.outcomes ∧ last.deferred = first.deferred ∧
      made = [] := by
  induction run with
  | refl => exact ⟨isOver, rfl, rfl, rfl⟩
  | tail _ step ih =>
      rcases ih with ⟨stillOver, outcomes, deferred, rfl⟩
      cases step with
      | close stage => exact ⟨rfl, outcomes, deferred, rfl⟩
      | beginBatch stage | putOff stage | runOut stage | work stage | join _ stage | resume stage =>
          rw [stage] at stillOver
          contradiction

end Execution

/-- What the outcomes of an execution say of its plans, whenever they were written. -/
def Execution.verdicts (execution : Execution) : List (Plan × Statuses) :=
  execution.outcomes.map fun outcome => (outcome.plan, outcome.statuses)

namespace Executor

variable {executor next start : Executor} {action : Action} {settings : ExecutorSettings}
  {before after : List Action} {plans : List Plan} {batchSize concurrency : Nat}

/-- Calls are made for executions that have begun. -/
theorem execution_lt_of_run? {actions : List Action}
    (run : (ofSettings settings).run? actions = some executor) :
    ∀ call ∈ executor.calls, call.worker.execution < executor.executions.length := by
  refine run?_preserves
    (fun state => ∀ call ∈ state.calls, call.worker.execution < state.executions.length) ?_ run
    (by simp [ofSettings])
  intro state action next known step
  cases step with
  | elapse time => exact known
  | execute plans batchSize concurrency =>
      intro call mem
      rw [List.length_append]
      exact Nat.lt_add_right _ (known call mem)
  | turn here stage => simpa [update] using known
  | join here stage isOver => simpa [update] using known
  | resume here stage late => simpa [update] using known
  | close here stage => simpa using known
  | @work id action execution pool worker after place here stage present step =>
      rcases step.exists_calls with ⟨made, calls, own⟩
      rcases List.getElem?_eq_some_iff.mp here with ⟨bound, -⟩
      have callsEq : place.calls = state.calls ++ made := calls
      intro call mem
      simp only [withWork, callsEq, List.length_set] at mem ⊢
      rcases List.mem_append.mp mem with old | new
      · exact known call old
      · rw [own call new]
        exact bound

/-- An execution that is begun on an executor in use is seen from then on as a run of its own. -/
theorem exists_run_of_execute {allowed : Call → WorkerAction → Prop}
    (reached : (ofSettings settings).run? before = some start)
    (run : start.run? (.execute plans batchSize concurrency :: after) = some executor)
    (follows : start.Follows allowed (.execute plans batchSize concurrency :: after)) :
    ∃ execution, executor.executions[start.executions.length]? = some execution ∧
      Execution.Run settings allowed start.executions.length
        (Order.execution ⟨start.clock, plans, batchSize, concurrency⟩)
        (executor.callsOf start.executions.length) execution := by
  rcases run?_cons_eq_some_iff.mp run with ⟨begun, step, run⟩
  have afterwards := follows.2 begun (step?_eq_some_iff.mpr step)
  cases step with
  | execute =>
      let order : Order := ⟨start.clock, plans, batchSize, concurrency⟩
      have here : (start.executions ++ [order.execution])[start.executions.length]? =
          some order.execution := by simp
      obtain ⟨made, execution, there, ran, calls⟩ := run?_projects run afterwards here
      have noneBefore : start.calls.filter
          (fun call => call.worker.execution == start.executions.length) = [] := by
        rw [List.filter_eq_nil_iff]
        intro call mem
        have bound := execution_lt_of_run? reached call mem
        simp only [beq_iff_eq]
        omega
      have callsEq : executor.callsOf start.executions.length = [] ++ made := by
        rw [calls]
        exact congrArg (· ++ made) noneBefore
      have same : start.settings = settings := settings_of_run? reached
      refine ⟨execution, there, ?_⟩
      rw [callsEq, List.nil_append, ← same]
      exact ran

/-- What is known of an execution at every moment after it was begun. -/
theorem exists_sound_of_execute (reached : (ofSettings settings).run? before = some start)
    (run : start.run? (.execute plans batchSize concurrency :: after) = some executor) :
    ∃ execution finished putOff,
      executor.executions[start.executions.length]? = some execution ∧
      Execution.Sound ⟨start.clock, plans, batchSize, concurrency⟩
        (executor.callsOf start.executions.length) execution finished putOff := by
  obtain ⟨execution, here, ran⟩ := exists_run_of_execute reached run (follows_anyEnd _ _)
  obtain ⟨finished, putOff, sound, -⟩ := (Execution.sound_execution _).run ran
  exact ⟨execution, finished, putOff, here, sound⟩

/-- A batch begins at its turn if the deadline has not passed since the start; otherwise it is put
off together with all that is left. -/
private theorem exists_turn {order : Order} {calls : List Call} {execution : Execution}
    {finished putOff : List Batch} {number : Nat} {batch : Batch} {rest : List Batch}
    (sound : Execution.Sound order calls execution finished putOff)
    (here : executor.executions[number]? = some execution) (stage : execution.stage = .turn)
    (remaining : execution.remaining = batch :: rest) :
    ∃ next, executor.step? (.turn number) = some next ∧
      ((∀ limit, executor.settings.cycleDeadline = some limit →
          (executor.clock - order.started).nanos < limit.nanos) →
        next.executions[number]? = some
          { execution with
            stage := .running (.ofBatch batch order.concurrency)
            remaining := rest }) ∧
      (∀ limit, executor.settings.cycleDeadline = some limit →
        limit.nanos ≤ (executor.clock - order.started).nanos →
        next.executions[number]? = some
          { execution with
            stage := .closing
            remaining := []
            deferred := (batch :: rest).flatMap Batch.plans }) := by
  obtain ⟨bound, -⟩ := List.getElem?_eq_some_iff.mp here
  have lateEq : execution.isLate executor.settings executor.clock =
      executor.settings.cycleDeadline.any fun limit => limit ≤ executor.clock - order.started := by
    rw [Execution.isLate, sound.started]
  refine ⟨_, step?_eq_some_iff.mpr (.turn here stage), ?_, ?_⟩
  · intro early
    have notLate : execution.isLate executor.settings executor.clock = false := by
      rw [lateEq]
      cases deadline : executor.settings.cycleDeadline with
      | none => rfl
      | some limit => exact decide_eq_false (Nat.not_le_of_lt (early limit deadline))
    simp only [update, List.getElem?_set_self bound, Execution.takeTurn, remaining, notLate,
      sound.concurrency]
    rfl
  · intro limit deadline passed
    have late : execution.isLate executor.settings executor.clock = true := by
      rw [lateEq, deadline]
      exact decide_eq_true passed
    simp only [update, List.getElem?_set_self bound, Execution.takeTurn, remaining, late]
    rfl

/-- An execution that begins on an executor in use returns after a bounded number of steps, and
can do so in every state that is reached, whatever the runtime does.  When it has returned, its
outcomes and the plans put off are its plans in their order, cut where a batch begins, and no call
was made for a plan put off.  At the turn of a batch the time since the beginning decides whether
the batch begins or all that is left is put off for good, and a batch that has begun has an outcome
for each of its plans in the end. -/
theorem execute_accounts_for_plans (runtime : Runtime)
    (reached : (ofSettings settings).run? before = some start)
    (run : start.run? (.execute plans batchSize concurrency :: after) = some executor) :
    let number := start.executions.length
    (∃ execution, executor.executions[number]? = some execution ∧
      (execution.stage = .returned →
        execution.AccountsFor plans batchSize (executor.callsOf number)) ∧
      (∀ batch rest, execution.stage = .turn → execution.remaining = batch :: rest →
        ∃ next, executor.step? (.turn number) = some next ∧
          ((∀ limit, settings.cycleDeadline = some limit →
              (executor.clock - start.clock).nanos < limit.nanos) →
            next.executions[number]? = some
              { execution with
                stage := .running (.ofBatch batch concurrency)
                remaining := rest }) ∧
          (∀ limit, settings.cycleDeadline = some limit →
            limit.nanos ≤ (executor.clock - start.clock).nanos →
            next.executions[number]? = some
              { execution with
                stage := .closing
                remaining := []
                deferred := (batch :: rest).flatMap Batch.plans })) ∧
      (∀ later last, executor.run? later = some last →
        ∃ final, last.executions[number]? = some final ∧
          (execution.stage.isOver = true →
            final.outcomes = execution.outcomes ∧ final.deferred = execution.deferred) ∧
          (∀ pool, execution.stage = .running pool → final.stage = .returned →
            execution.outcomes.map Outcome.plan ++ pool.batch.plans <+:
              final.outcomes.map Outcome.plan))) ∧
    (before ++ .execute plans batchSize concurrency :: after).countP Action.isWork ≤
      ((before ++ .execute plans batchSize concurrency :: after).map Action.cost).sum ∧
    (∃ later last, executor.run? later = some last ∧ executor.Follows runtime.allows later ∧
      (later.map Action.cost).sum = 0 ∧ last.AllReturned) := by
  have whole := run?_trans reached run
  refine ⟨?_, countP_isWork_le whole, exists_allReturned runtime (locks_sound_of_run? whole)⟩
  obtain ⟨execution, finished, putOff, here, sound⟩ := exists_sound_of_execute reached run
  refine ⟨execution, here, ?_, ?_, ?_⟩
  · intro returned
    exact sound.accountsFor (by rw [returned]; rfl)
  · intro batch rest stage remaining
    have same : executor.settings = settings := settings_of_run? whole
    rw [← same]
    exact exists_turn sound here stage remaining
  · intro later last continued
    obtain ⟨made, final, there, ran, -⟩ := run?_projects continued (follows_anyEnd _ _) here
    refine ⟨final, there, ?_, ?_⟩
    · intro isOver
      obtain ⟨-, outcomes, deferred, -⟩ := ran.of_isOver isOver
      exact ⟨outcomes, deferred⟩
    · intro pool stage returned
      obtain ⟨allFinished, allPutOff, finalSound, before⟩ := sound.run ran
      rw [stage, returned, Stage.batches_running, Stage.batches_returned, List.append_nil] at before
      rcases before with ⟨others, split⟩
      rw [sound.outcomes, finalSound.outcomes, ← split]
      simp

/-- Two plans for one pod and one for another. -/
def threePlans : List Plan :=
  ["web", "web", "db"].map fun pod =>
    .ofTargets ⟨⟨"default", pod⟩, "app"⟩ ⟨100, 1000⟩ ⟨100, 2000⟩

/-- In the first batch the first worker breaks down, and the second one, which waited for it, is
answered after the deadline.  The second batch is put off. -/
def brokenAndLate : List Action :=
  [.turn 0, .work ⟨0, 0⟩ .take, .work ⟨0, 1⟩ .take, .work ⟨0, 0⟩ (.lookUp default),
    .work ⟨0, 1⟩ (.lookUp default), .work ⟨0, 0⟩ .enqueue, .work ⟨0, 1⟩ .enqueue,
    .work ⟨0, 0⟩ .start, .work ⟨0, 0⟩ .breakDown, .work ⟨0, 1⟩ .start, .elapse (.ofSeconds 2),
    .work ⟨0, 1⟩ (.answer (.ok ()) default), .work ⟨0, 1⟩ .take, .join 0 default, .turn 0,
    .close 0]

theorem execute_accounts_for_plans_broken_and_late :
    ∃ executor execution,
      (ofSettings { ExecutorSettings.default with cycleDeadlineSeconds := some 1 }).run?
        (.execute threePlans 2 2 :: brokenAndLate) = some executor ∧
      executor.executions[0]? = some execution ∧ execution.stage = .returned ∧
      execution.AccountsFor threePlans 2 (executor.callsOf 0) ∧
      execution.verdicts.map Prod.snd =
        [⟨.skipped .noChange, .failed "resize worker aborted"⟩, ⟨.skipped .noChange, .applied⟩] ∧
      execution.deferred = threePlans.drop 2 := by
  let start := ofSettings { ExecutorSettings.default with cycleDeadlineSeconds := some 1 }
  let actions := Action.execute threePlans 2 2 :: brokenAndLate
  let executor := (start.run? actions).get (by decide +kernel)
  have run : start.run? actions = some executor := (Option.some_get _).symm
  have reached : start.run? [] = some start := rfl
  let execution := executor.executions[0]?.get (by decide +kernel)
  have here : executor.executions[0]? = some execution := (Option.some_get _).symm
  have returned : execution.stage = .returned := by decide +kernel
  let runtime : Runtime := ⟨anyEnd, fun _ => ⟨.breakDown, rfl, trivial⟩⟩
  obtain ⟨⟨same, there, accounts, -⟩, -⟩ := execute_accounts_for_plans runtime reached run
  obtain rfl : same = execution := Option.some.inj (there.symm.trans here)
  exact ⟨executor, execution, run, here, returned, accounts returned, by decide +kernel,
    by decide +kernel⟩

end Executor

end PodSizing
