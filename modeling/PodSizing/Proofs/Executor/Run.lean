import PodSizing.Proofs.Executor.Step

/-!
# Runs

A run of an executor is seen by one of its executions as a run of its own, with the calls that it
made.  Which ends of calls are possible in a run may be restricted: this is how a statement speaks
of the behaviour of the runtime.
-/

namespace PodSizing

namespace Execution

/-- A sequence of steps of one execution, with the calls made by it. -/
inductive Run (settings : ExecutorSettings) (allowed : Call → WorkerAction → Prop)
    (number : Nat) : Execution → List Call → Execution → Prop
  | refl (execution : Execution) : Run settings allowed number execution [] execution
  | tail {first middle last : Execution} {calls made : List Call}
      (run : Run settings allowed number first calls middle)
      (step : Step settings allowed number middle made last) :
      Run settings allowed number first (calls ++ made) last

namespace Run

variable {settings : ExecutorSettings} {allowed : Call → WorkerAction → Prop} {number : Nat}
  {first middle last : Execution} {calls made : List Call}

theorem single (step : Step settings allowed number first made last) :
    Run settings allowed number first made last := by
  simpa using (Run.refl first).tail step

theorem trans (run : Run settings allowed number first calls middle)
    (rest : Run settings allowed number middle made last) :
    Run settings allowed number first (calls ++ made) last := by
  induction rest with
  | refl => simpa using run
  | tail _ step ih =>
      rw [← List.append_assoc]
      exact ih.tail step

end Run

end Execution

namespace Executor

/-- The pool of an execution at a batch. -/
def pool? (executor : Executor) (number : Nat) : Option Pool :=
  executor.executions[number]?.bind fun execution => execution.stage.pool?

/-- A worker of a pool at a batch. -/
def worker? (executor : Executor) (id : WorkerId) : Option Worker :=
  (executor.pool? id.execution).bind fun pool => pool.workers[id.number]?

/-- The call that a worker waits for. -/
def currentCall? (executor : Executor) (id : WorkerId) : Option Call :=
  (executor.worker? id).bind (Worker.currentCall? id)

/-- The action does not end a call in a way that is not allowed. -/
def Permits (allowed : Call → WorkerAction → Prop) (executor : Executor) : Action → Prop
  | .work id action => ∀ call, executor.currentCall? id = some call → allowed call action
  | _ => True

/-- No call ends in a way that is not allowed. -/
def Follows (allowed : Call → WorkerAction → Prop) : Executor → List Action → Prop
  | _, [] => True
  | executor, action :: rest =>
      executor.Permits allowed action ∧
        ∀ next, executor.step? action = some next → Follows allowed next rest

section Decidable

variable {allowed : Call → WorkerAction → Prop} [∀ call action, Decidable (allowed call action)]

instance (executor : Executor) : ∀ action, Decidable (executor.Permits allowed action)
  | .work id action =>
      match current : executor.currentCall? id with
      | some call => decidable_of_iff (allowed call action) (by simp [Permits, current])
      | none => .isTrue (by simp [Permits, current])
  | .elapse _ | .execute _ _ _ | .turn _ | .join _ _ | .resume _ | .close _ => .isTrue trivial

instance decidableFollows (executor : Executor) :
    ∀ actions, Decidable (executor.Follows allowed actions)
  | [] => .isTrue trivial
  | action :: rest =>
      match step : executor.step? action with
      | some next =>
          have := decidableFollows next rest
          decidable_of_iff (executor.Permits allowed action ∧ next.Follows allowed rest)
            (by simp [Follows, step])
      | none => decidable_of_iff (executor.Permits allowed action) (by simp [Follows, step])

end Decidable

/-- Every end of a call is allowed. -/
def anyEnd (_ : Call) (_ : WorkerAction) : Prop := True

theorem follows_anyEnd (executor : Executor) (actions : List Action) :
    executor.Follows anyEnd actions := by
  induction actions generalizing executor with
  | nil => trivial
  | cons action rest ih =>
      refine ⟨?_, fun next _ => ih next⟩
      cases action <;> simp [Permits, anyEnd]

theorem worker?_of_running {executor : Executor} {id : WorkerId} {execution : Execution}
    {pool : Pool} (here : executor.executions[id.execution]? = some execution)
    (stage : execution.stage = .running pool) :
    executor.worker? id = pool.workers[id.number]? := by
  simp [worker?, pool?, here, stage, Stage.pool?]

theorem run?_cons_eq_some_iff {executor last : Executor} {action : Action}
    {rest : List Action} :
    executor.run? (action :: rest) = some last ↔
      ∃ next, Step executor action next ∧ next.run? rest = some last := by
  simp only [run?, Option.bind_eq_some_iff, step?_eq_some_iff]

/-- Two runs, one after the other. -/
theorem run?_trans {executor middle last : Executor} {first second : List Action}
    (begun : executor.run? first = some middle) (ended : middle.run? second = some last) :
    executor.run? (first ++ second) = some last := by
  rw [run?_append, begun]
  exact ended

/-- What every step preserves is preserved by a run. -/
theorem run?_preserves (holds : Executor → Prop)
    (step : ∀ {executor action next}, holds executor → Step executor action next → holds next)
    {executor last : Executor} {actions : List Action}
    (run : executor.run? actions = some last) (start : holds executor) : holds last := by
  induction actions generalizing executor with
  | nil =>
      cases run
      exact start
  | cons action rest ih =>
      rcases run?_cons_eq_some_iff.mp run with ⟨next, first, run⟩
      exact ih run (step start first)

theorem settings_of_step {executor next : Executor} {action : Action}
    (step : Step executor action next) : next.settings = executor.settings := by
  cases step <;> rfl

theorem settings_of_run? {executor last : Executor} {actions : List Action}
    (run : executor.run? actions = some last) : last.settings = executor.settings :=
  run?_preserves (fun state => state.settings = executor.settings)
    (fun same step => (settings_of_step step).trans same) run rfl

private theorem filter_execution_eq_self {calls : List Call} {id : WorkerId}
    (own : ∀ call ∈ calls, call.worker = id) :
    calls.filter (fun call => call.worker.execution == id.execution) = calls := by
  rw [List.filter_eq_self]
  intro call mem
  simp [own call mem]

private theorem filter_execution_eq_nil {calls : List Call} {id : WorkerId} {number : Nat}
    (own : ∀ call ∈ calls, call.worker = id) (ne : id.execution ≠ number) :
    calls.filter (fun call => call.worker.execution == number) = [] := by
  rw [List.filter_eq_nil_iff]
  intro call mem
  simp [own call mem, ne]

variable {allowed : Call → WorkerAction → Prop} {number : Nat} {execution : Execution}

/-- An execution that is replaced was replaced by one step of its own; the others stay. -/
private theorem run_of_set {executor next : Executor} {acting : Nat} {before after : Execution}
    (acts : executor.executions[acting]? = some before)
    (step : Execution.Step executor.settings allowed acting before [] after)
    (replaced : next.executions = executor.executions.set acting after)
    (calls : next.calls = executor.calls)
    (here : executor.executions[number]? = some execution) :
    ∃ made last, next.executions[number]? = some last ∧
      Execution.Run executor.settings allowed number execution made last ∧
      next.callsOf number = executor.callsOf number ++ made := by
  refine ⟨[], ?_⟩
  simp only [callsOf, calls, List.append_nil, and_true, replaced]
  by_cases eq : acting = number
  · subst acting
    have same : before = execution := Option.some.inj (acts.symm.trans here)
    subst before
    rcases List.getElem?_eq_some_iff.mp here with ⟨bound, -⟩
    exact ⟨after, List.getElem?_set_self bound, .single step⟩
  · exact ⟨execution, (List.getElem?_set_ne eq).trans here, .refl execution⟩

/-- One step of an executor is for each of its executions a step of its own, or none. -/
theorem Step.projects {executor next : Executor} {action : Action}
    (step : Step executor action next) (permitted : executor.Permits allowed action)
    (here : executor.executions[number]? = some execution) :
    ∃ made last, next.executions[number]? = some last ∧
      Execution.Run executor.settings allowed number execution made last ∧
      next.callsOf number = executor.callsOf number ++ made := by
  cases step with
  | elapse time => exact ⟨[], execution, here, .refl execution, by simp [callsOf]⟩
  | execute plans batchSize concurrency =>
      rcases List.getElem?_eq_some_iff.mp here with ⟨bound, -⟩
      exact ⟨[], execution, by simpa [List.getElem?_append_left bound] using here,
        .refl execution, by simp [callsOf]⟩
  | turn acts stage => exact run_of_set acts (.of_takeTurn executor.clock stage) rfl rfl here
  | join acts stage isOver => exact run_of_set acts (.join _ stage isOver) rfl rfl here
  | resume acts stage late => exact run_of_set acts (.resume stage) rfl rfl here
  | close acts stage => exact run_of_set acts (.close stage) rfl rfl here
  | @work id action acting pool worker after place acts stage present step =>
      rcases step.exists_calls with ⟨made, calls, own⟩
      have callsEq : place.calls = executor.calls ++ made := calls
      have ends : ∀ call, worker.currentCall? id = some call → allowed call action := by
        intro call current
        apply permitted call
        rw [currentCall?, worker?_of_running acts stage, present]
        exact current
      by_cases eq : id.execution = number
      · subst number
        have same : acting = execution := Option.some.inj (acts.symm.trans here)
        subst acting
        rcases List.getElem?_eq_some_iff.mp here with ⟨bound, -⟩
        refine ⟨made, _, List.getElem?_set_self bound,
          .single (.work stage present step rfl calls ends), ?_⟩
        simp only [callsOf, withWork, callsEq, List.filter_append, filter_execution_eq_self own]
      · refine ⟨[], execution, (List.getElem?_set_ne eq).trans here, .refl execution, ?_⟩
        simp only [callsOf, withWork, callsEq, List.filter_append, filter_execution_eq_nil own eq]

/-- A run of an executor is for each of its executions a run of its own. -/
theorem run?_projects {executor last : Executor} {actions : List Action}
    (run : executor.run? actions = some last) (follows : executor.Follows allowed actions)
    (here : executor.executions[number]? = some execution) :
    ∃ made final, last.executions[number]? = some final ∧
      Execution.Run executor.settings allowed number execution made final ∧
      last.callsOf number = executor.callsOf number ++ made := by
  induction actions generalizing executor execution with
  | nil =>
      cases run
      exact ⟨[], execution, here, .refl execution, by simp⟩
  | cons action rest ih =>
      rcases run?_cons_eq_some_iff.mp run with ⟨next, step, run⟩
      rcases follows with ⟨permitted, follows⟩
      obtain ⟨first, middle, there, begun, callsFirst⟩ := step.projects permitted here
      obtain ⟨second, final, atEnd, ended, callsSecond⟩ :=
        ih run (follows next (step?_eq_some_iff.mpr step)) there
      rw [settings_of_step step] at ended
      exact ⟨first ++ second, final, atEnd, begun.trans ended, by
        rw [callsSecond, callsFirst, List.append_assoc]⟩

end Executor

end PodSizing
