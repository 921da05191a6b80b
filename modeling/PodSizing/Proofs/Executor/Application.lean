import PodSizing.Proofs.Executor.WorkerStep

/-!
# Statuses of a plan

Whatever the runtime replies, a dimension that a plan does not change is reported as unchanged.
-/

namespace PodSizing

namespace Plan

/-- The plan that moves a container from what is configured to some targets. -/
def ofTargets (container : ContainerId) (current target : PerDimension Nat) : Plan where
  container := container
  decisions :=
    ⟨⟨.cpu, .ofMove current.cpu target.cpu, current.cpu, target.cpu, .zero false⟩,
      ⟨.memory, .ofMove current.memory target.memory, current.memory, target.memory, .zero false⟩⟩
  allocation := ⟨⟨current.cpu, current.cpu⟩, ⟨current.memory, current.memory⟩⟩

/-- What the plan does not change is reported as unchanged. -/
def Respects (plan : Plan) (statuses : Statuses) : Prop :=
  ∀ dimension, dimension ∉ plan.changing → statuses.get dimension = .skipped .noChange

theorem get_unchanged (dimension : Dimension) :
    Statuses.unchanged.get dimension = .skipped .noChange := by
  cases dimension <;> rfl

theorem respects_unchanged (plan : Plan) : plan.Respects .unchanged :=
  fun dimension _ => get_unchanged dimension

/-- Statuses stay respectful when only dimensions that change get another one. -/
theorem Respects.setAll {plan : Plan} {statuses : Statuses} (respects : plan.Respects statuses)
    {dimensions : List Dimension} (subset : dimensions ⊆ plan.changing) (status : Status) :
    plan.Respects (statuses.setAll dimensions status) := by
  intro dimension notChanging
  have absent : dimension ∉ dimensions := fun mem => notChanging (subset mem)
  rw [Statuses.get_setAll, if_neg absent]
  exact respects dimension notChanging

theorem respects_allChanging (plan : Plan) (status : Status) :
    plan.Respects (plan.allChanging status) :=
  plan.respects_unchanged.setAll (List.Subset.refl _) status

theorem attempted_subset (plan : Plan) (attempt : Attempt) :
    plan.attempted attempt ⊆ plan.changing := by
  cases attempt with
  | whole => exact List.Subset.refl _
  | reduced refused => exact List.filter_sublist.subset

theorem refused_subset (plan : Plan) (rejected : List Dimension) :
    plan.refused rejected ⊆ plan.changing :=
  List.filter_sublist.subset

theorem respects_apartFrom (plan : Plan) {refused : List Dimension}
    (subset : refused ⊆ plan.changing) (status : Status) :
    plan.Respects (plan.apartFrom refused status) :=
  (plan.respects_unchanged.setAll subset _).setAll (plan.attempted_subset _) status

/-- The dimensions that an attempt leaves out are dimensions of the plan. -/
def IsAttempt (plan : Plan) : Attempt → Prop
  | .whole => True
  | .reduced refused => refused ⊆ plan.changing

theorem respects_of_begin {plan : Plan} {dryRun : Bool} {statuses : Statuses}
    (h : plan.begin dryRun = .finished statuses) : plan.Respects statuses := by
  simp only [begin] at h
  split at h
  · cases h
    exact plan.respects_unchanged
  · split at h
    · cases h
      exact plan.respects_allChanging _
    · contradiction

theorem respects_of_proceed {plan : Plan} {attempt : Attempt} {reply : Reply}
    {statuses : Statuses} (isAttempt : plan.IsAttempt attempt)
    (h : plan.proceed attempt reply = .finished statuses) : plan.Respects statuses := by
  cases attempt with
  | reduced refused =>
      cases reply with
      | ok =>
          cases h
          exact plan.respects_apartFrom isAttempt _
      | error error =>
          cases h
          exact plan.respects_apartFrom isAttempt _
  | whole =>
      cases reply with
      | ok =>
          cases h
          exact plan.respects_allChanging _
      | error error =>
          cases error with
          | failed reason =>
              cases h
              exact plan.respects_allChanging _
          | timeout limit =>
              cases h
              exact plan.respects_allChanging _
          | rejected dimensions reason =>
              simp only [proceed] at h
              split at h
              · cases h
                exact plan.respects_allChanging _
              · split at h
                · cases h
                  exact plan.respects_unchanged.setAll (plan.refused_subset _) _
                · contradiction

/-- A second attempt leaves out dimensions of the plan. -/
theorem isAttempt_of_proceed {plan : Plan} {attempt next : Attempt} {reply : Reply}
    (h : plan.proceed attempt reply = .calling next) : plan.IsAttempt next := by
  obtain ⟨rfl, refused, rfl⟩ := proceed_eq_calling h
  cases reply with
  | ok => contradiction
  | error error =>
      cases error with
      | failed reason => contradiction
      | timeout limit => contradiction
      | rejected dimensions reason =>
          simp only [proceed] at h
          split at h
          · contradiction
          · split at h
            · contradiction
            · cases h
              exact plan.refused_subset dimensions

/-- A call for a plan is about dimensions that the plan changes. -/
theorem mem_changing_of_mem_dimensions {plan : Plan} {attempt : Attempt} {dimension : Dimension}
    (mem : dimension ∈ (plan.requestOf attempt).dimensions) : dimension ∈ plan.changing := by
  rw [requestOf, ResizeRequest.dimensions_request] at mem
  exact plan.attempted_subset attempt mem

end Plan

/-- What the plan of an outcome does not change is reported as unchanged. -/
def Outcome.IsProper (outcome : Outcome) : Prop := outcome.plan.Respects outcome.statuses

/-- A dimension that was changed is one that the plan changes. -/
theorem Outcome.IsProper.mem_changing {outcome : Outcome} (proper : outcome.IsProper)
    {dimension : Dimension} (applied : outcome.statuses.get dimension = .applied) :
    dimension ∈ outcome.plan.changing := by
  apply Decidable.byContradiction
  intro notChanging
  rw [proper dimension notChanging] at applied
  contradiction

end PodSizing
