import PodSizing.Plan

/-!
# What a decision can be

`Policy.Decides` says what a policy can decide about one dimension, and `Policy.decide?` gives
exactly these decisions: the dimension is kept, or it is moved to the step target, which then lies
strictly in the direction of the verdict.  A plan has such a decision in each dimension, unless a
change is held back.
-/

namespace PodSizing

namespace Verdict

/-- No move ends where it begins. -/
@[simp]
theorem agrees_self (verdict : Verdict) (amount : Nat) : verdict.agrees amount amount = false := by
  cases verdict <;> simp [agrees]

end Verdict

/-- Between bounds that are not inverted, a value is moved up to the minimum or down to the
maximum. -/
theorem Bounds.clamp?_eq_some_iff {bounds : Bounds} {value clamped : Nat} :
    bounds.clamp? value = some clamped ↔
      bounds.min ≤ bounds.max ∧ clamped = Max.max bounds.min (Min.min value bounds.max) := by
  rw [clamp?]
  split
  · rename_i inverted
    have inverted : bounds.max < bounds.min := by simpa [isInverted] using inverted
    simp only [reduceCtorEq, false_iff]
    omega
  · rename_i ordered
    have ordered : bounds.min ≤ bounds.max := by simpa [isInverted] using ordered
    split
    · simp only [Option.some.injEq]
      omega
    · split <;> simp only [Option.some.injEq] <;> omega

namespace Policy

/-- What can be decided about a dimension. -/
inductive Decides (policy : Policy) (dimension : Dimension) (usage : Nat)
    (allocation : Allocation) : Decision → Prop
  /-- There is nothing to measure the usage against. -/
  | unset (nothing : allocation.baseline = 0) :
      Decides policy dimension usage allocation (.keep dimension 0 (.zero false))
  /-- No threshold is passed. -/
  | within (configured : allocation.baseline ≠ 0)
      (within : policy.verdict usage allocation.baseline = .noChange) :
      Decides policy dimension usage allocation
        (.keep dimension allocation.baseline (Decision.utilizationOf usage allocation.baseline))
  /-- The step target does not lie in the direction of the verdict. -/
  | blocked {target : Nat} (configured : allocation.baseline ≠ 0)
      (beyond : policy.verdict usage allocation.baseline ≠ .noChange)
      (step : policy.stepTarget? dimension usage = some target)
      (blocked : (policy.verdict usage allocation.baseline).agrees allocation.baseline target =
        false) :
      Decides policy dimension usage allocation
        (.keep dimension allocation.baseline (Decision.utilizationOf usage allocation.baseline))
  | moved {target : Nat} (configured : allocation.baseline ≠ 0)
      (step : policy.stepTarget? dimension usage = some target)
      (agrees : (policy.verdict usage allocation.baseline).agrees allocation.baseline target =
        true) :
      Decides policy dimension usage allocation
        ⟨dimension, policy.verdict usage allocation.baseline, allocation.baseline, target,
          Decision.utilizationOf usage allocation.baseline⟩

variable {policy : Policy} {dimension : Dimension} {usage : Nat} {allocation : Allocation}
  {decision : Decision}

private theorem decide?_of_beyond (configured : allocation.baseline ≠ 0)
    (beyond : policy.verdict usage allocation.baseline ≠ .noChange) :
    policy.decide? dimension usage allocation =
      (policy.stepTarget? dimension usage).map fun target =>
        if (policy.verdict usage allocation.baseline).agrees allocation.baseline target then
          ⟨dimension, policy.verdict usage allocation.baseline, allocation.baseline, target,
            Decision.utilizationOf usage allocation.baseline⟩
        else
          .keep dimension allocation.baseline
            (Decision.utilizationOf usage allocation.baseline) := by
  unfold decide?
  rw [if_neg configured]
  cases verdict : policy.verdict usage allocation.baseline with
  | noChange => exact absurd verdict beyond
  | scaleUp | scaleDown =>
      cases policy.stepTarget? dimension usage with
      | none => simp
      | some target =>
          simp only [Option.bind_eq_bind, Option.bind_some, Option.map_some]
          split <;> rfl

/-- A policy decides what it can decide. -/
theorem decide?_eq_some_iff :
    policy.decide? dimension usage allocation = some decision ↔
      policy.Decides dimension usage allocation decision := by
  constructor
  · intro decided
    by_cases nothing : allocation.baseline = 0
    · simp only [decide?, nothing, if_true, Option.some.injEq] at decided
      exact decided ▸ .unset nothing
    · by_cases within : policy.verdict usage allocation.baseline = .noChange
      · simp only [decide?, nothing, if_false, within, Option.some.injEq] at decided
        exact decided ▸ .within nothing within
      · rw [decide?_of_beyond nothing within, Option.map_eq_some_iff] at decided
        rcases decided with ⟨target, step, rfl⟩
        split
        · rename_i agrees
          exact .moved nothing step agrees
        · rename_i blocked
          exact .blocked nothing within step (Bool.eq_false_iff.mpr blocked)
  · intro decides
    cases decides with
    | unset nothing => simp [decide?, nothing]
    | within configured within => simp [decide?, configured, within]
    | blocked configured beyond step blocked =>
        simp [decide?_of_beyond configured beyond, step, blocked]
    | moved configured step agrees =>
        have beyond : policy.verdict usage allocation.baseline ≠ .noChange := by
          intro within
          simp [within, Verdict.agrees] at agrees
        simp [decide?_of_beyond configured beyond, step, agrees]

/-- Between bounds that are not inverted there is always a step target. -/
theorem exists_stepTarget? (ordered : (policy.bounds.get dimension).min ≤
      (policy.bounds.get dimension).max) (usage : Nat) :
    ∃ target, policy.stepTarget? dimension usage = some target := by
  rw [← Option.isSome_iff_exists, stepTarget?, Bounds.isSome_clamp?]
  simpa [Bounds.isInverted] using ordered

/-- With bounds that are not inverted a policy always decides. -/
theorem exists_decide? (ordered : (policy.bounds.get dimension).min ≤
      (policy.bounds.get dimension).max) (usage : Nat) (allocation : Allocation) :
    ∃ decision, policy.decide? dimension usage allocation = some decision := by
  obtain ⟨target, step⟩ := exists_stepTarget? ordered usage
  by_cases nothing : allocation.baseline = 0
  · exact ⟨_, decide?_eq_some_iff.mpr (.unset nothing)⟩
  · by_cases within : policy.verdict usage allocation.baseline = .noChange
    · exact ⟨_, decide?_eq_some_iff.mpr (.within nothing within)⟩
    · exact ⟨_, by rw [decide?_of_beyond nothing within, step, Option.map_some]⟩

/-- A decision without a change keeps what it is about. -/
theorem Decides.eq_keep (decides : policy.Decides dimension usage allocation decision)
    (unchanged : decision.isChange = false) :
    decision = .keep dimension allocation.baseline decision.utilization := by
  cases decides with
  | unset nothing => rw [nothing]; rfl
  | within | blocked => rfl
  | moved configured step agrees =>
      cases verdict : policy.verdict usage allocation.baseline with
      | noChange => simp [verdict, Verdict.agrees] at agrees
      | scaleUp | scaleDown => simp [Decision.isChange, verdict] at unchanged

/-- A change moves a dimension to the step target of its usage. -/
theorem Decides.step_of_isChange (decides : policy.Decides dimension usage allocation decision)
    (changes : decision.isChange = true) :
    policy.stepTarget? dimension usage = some decision.target := by
  cases decides with
  | moved configured step agrees => exact step
  | unset | within | blocked => contradiction

theorem Decides.target_eq (decides : policy.Decides dimension usage allocation decision)
    {target : Nat} (step : policy.stepTarget? dimension usage = some target)
    (moves : decision.verdict ≠ .noChange) : decision.target = target := by
  have changes : decision.isChange = true := by simpa [Decision.isChange] using moves
  exact Option.some.inj ((decides.step_of_isChange changes).symm.trans step)

/-- A change starts from what is configured and goes in the direction of its verdict. -/
theorem Decides.agrees_of_isChange (decides : policy.Decides dimension usage allocation decision)
    (changes : decision.isChange = true) :
    decision.current = allocation.baseline ∧
      decision.verdict.agrees decision.current decision.target = true := by
  cases decides with
  | moved configured step agrees => exact ⟨rfl, agrees⟩
  | unset | within | blocked => contradiction

/-- A dimension is moved in a direction exactly when this is the verdict on its usage and the step
target lies in this direction. -/
theorem Decides.verdict_eq_iff (decides : policy.Decides dimension usage allocation decision)
    {target : Nat} (step : policy.stepTarget? dimension usage = some target) {verdict : Verdict}
    (moves : verdict ≠ .noChange) :
    decision.verdict = verdict ↔
      allocation.baseline ≠ 0 ∧ policy.verdict usage allocation.baseline = verdict ∧
        verdict.agrees allocation.baseline target = true := by
  have kept : Verdict.noChange ≠ verdict := Ne.symm moves
  cases decides with
  | unset nothing => simp [Decision.keep, kept, nothing]
  | within configured within => simp [Decision.keep, kept, within]
  | blocked configured beyond stepped blocked =>
      cases step.symm.trans stepped
      simp only [Decision.keep, kept, false_iff]
      rintro ⟨-, rfl, agrees⟩
      exact Bool.eq_false_iff.mp blocked agrees
  | moved configured stepped agrees =>
      cases step.symm.trans stepped
      constructor
      · rintro rfl
        exact ⟨configured, rfl, agrees⟩
      · rintro ⟨-, verdict_eq, -⟩
        exact verdict_eq

/-- What stands at the step target of its usage is kept. -/
theorem exists_decide?_eq_keep
    (step : policy.stepTarget? dimension usage = some allocation.baseline) :
    ∃ utilization, policy.decide? dimension usage allocation =
      some (.keep dimension allocation.baseline utilization) := by
  by_cases nothing : allocation.baseline = 0
  · refine ⟨.zero false, decide?_eq_some_iff.mpr ?_⟩
    rw [nothing]
    exact .unset nothing
  · by_cases within : policy.verdict usage allocation.baseline = .noChange
    · exact ⟨_, decide?_eq_some_iff.mpr (.within nothing within)⟩
    · exact ⟨_, decide?_eq_some_iff.mpr (.blocked nothing within step (Verdict.agrees_self _ _))⟩

/-! ### Plans -/

variable {cooldowns : CooldownTable} {now : Instant} {sample : Sample}

/-- A change is decided on only if it is decided on without regard to earlier ones. -/
theorem decide?_of_decideResting?
    (decided : policy.decideResting? cooldowns now sample dimension = some decision)
    (changes : decision.isChange = true) :
    policy.decide? dimension (sample.usage.get dimension) (sample.allocation.get dimension) =
      some decision := by
  rw [decideResting?, Option.map_eq_some_iff] at decided
  rcases decided with ⟨raw, first, rfl⟩
  split at changes
  · contradiction
  · rename_i free
    rw [if_neg free, first]

/-- The plan for a sample is what is decided about its dimensions. -/
theorem assess?_eq_some_iff {plan : Plan} :
    policy.assess? cooldowns now sample = some plan ↔
      plan.container = sample.container ∧ plan.allocation = sample.allocation ∧
        ∀ dimension, policy.decideResting? cooldowns now sample dimension =
          some (plan.decisions.get dimension) := by
  obtain ⟨container, ⟨cpu, memory⟩, allocation⟩ := plan
  simp only [assess?, Option.bind_eq_bind, Option.bind_eq_some_iff]
  constructor
  · rintro ⟨_, cpuDecided, _, memoryDecided, made⟩
    cases made
    refine ⟨rfl, rfl, ?_⟩
    rintro (_ | _)
    · exact cpuDecided
    · exact memoryDecided
  · rintro ⟨rfl, rfl, decided⟩
    exact ⟨cpu, decided .cpu, memory, decided .memory, rfl⟩

end Policy

end PodSizing
