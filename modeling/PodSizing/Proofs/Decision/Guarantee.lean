import PodSizing.Plan
import PodSizing.Proofs.Binary64.Monotone
import PodSizing.Proofs.Decision.Steady

/-!
# What an accepted policy decides

`Policy.check` accepts a policy only if its bounds leave a value in every dimension, so that an
accepted policy makes a plan for every sample.  `Policy.Justifies` says what a decision may be: a
move after a threshold was passed, strictly in its direction and into the bounds, or no move at
all.  It holds of what is decided without regard to earlier changes, and also of a change that is
held back while its dimension rests.
-/

namespace PodSizing

namespace Policy

/-- What is asked of a policy. -/
structure IsAccepted (policy : Policy) : Prop where
  upper : isThreshold policy.upperThreshold = true
  lower : isThreshold policy.lowerThreshold = true
  order : policy.upperThreshold.le policy.lowerThreshold = false
  bounds : ∀ dimension, (policy.bounds.get dimension).isInverted = false
  finite : policy.stepMultiplier.isFinite = true
  positive : Binary64.lt (.ofNat 0) policy.stepMultiplier = true

theorem IsAccepted.ordered {policy : Policy} (accepted : policy.IsAccepted)
    (dimension : Dimension) :
    (policy.bounds.get dimension).min ≤ (policy.bounds.get dimension).max := by
  simpa [Bounds.isInverted] using accepted.bounds dimension

theorem check_eq_ok_iff {policy : Policy} : policy.check = .ok () ↔ policy.IsAccepted := by
  constructor
  · intro accepted
    -- The first thing that is not as asked would have been the reason to refuse the policy.
    simp only [check, Dimension.all, List.forIn_cons, List.forIn_nil, bind, Except.bind, throw,
      throwThe, MonadExceptOf.throw, pure, Except.pure] at accepted
    cases upper : isThreshold policy.upperThreshold with
    | false => simp [upper] at accepted
    | true =>
      cases lower : isThreshold policy.lowerThreshold with
      | false => simp [upper, lower] at accepted
      | true =>
        cases order : policy.upperThreshold.le policy.lowerThreshold with
        | true => simp [upper, lower, order] at accepted
        | false =>
          cases cpu : (policy.bounds.get .cpu).isInverted with
          | true => simp [upper, lower, order, cpu] at accepted
          | false =>
            cases memory : (policy.bounds.get .memory).isInverted with
            | true => simp [upper, lower, order, cpu, memory] at accepted
            | false =>
              have multiplier : policy.stepMultiplier.isFinite = true ∧
                  Binary64.lt (.ofNat 0) policy.stepMultiplier = true := by
                simpa [upper, lower, order, cpu, memory] using accepted
              refine ⟨upper, lower, order, ?_, multiplier.1, multiplier.2⟩
              rintro (_ | _)
              · exact cpu
              · exact memory
  · rintro ⟨upper, lower, order, bounds, finite, positive⟩
    simp only [check, upper, lower, order, bounds, finite, positive, Dimension.all, List.forIn_cons,
      List.forIn_nil]
    rfl

theorem check_default : Policy.default.check = .ok () := by
  rw [check_eq_ok_iff]
  constructor
  case bounds => rintro (_ | _) <;> decide +kernel
  all_goals decide +kernel

/-- What a decision about a dimension may be. -/
structure Justifies (policy : Policy) (dimension : Dimension) (usage : Nat)
    (allocation : Allocation) (decision : Decision) : Prop where
  about : decision.dimension = dimension
  current : decision.current = allocation.baseline
  scaleUp : decision.verdict = .scaleUp →
    policy.upperThreshold.lt (Decision.utilizationPercent usage allocation.baseline) = true ∧
      decision.current < decision.target ∧
      (policy.bounds.get dimension).contains decision.target = true
  scaleDown : decision.verdict = .scaleDown →
    (Decision.utilizationPercent usage allocation.baseline).lt policy.lowerThreshold = true ∧
      decision.target < decision.current ∧
      (policy.bounds.get dimension).contains decision.target = true
  noChange : decision.verdict = .noChange → decision.target = decision.current
  utilization : allocation.baseline ≠ 0 →
    decision.utilization = Decision.utilizationOf usage allocation.baseline
  unset : allocation.baseline = 0 → decision = .keep dimension 0 (.zero false)

variable {policy : Policy} {dimension : Dimension} {usage : Nat} {allocation : Allocation}
  {decision : Decision}

theorem lt_of_verdict_scaleUp {current : Nat} (up : policy.verdict usage current = .scaleUp) :
    policy.upperThreshold.lt (Decision.utilizationPercent usage current) = true := by
  by_cases above : policy.upperThreshold.lt (Decision.utilizationPercent usage current) = true
  · exact above
  · rw [verdict, if_neg above] at up
    split at up <;> cases up

theorem lt_of_verdict_scaleDown {current : Nat}
    (down : policy.verdict usage current = .scaleDown) :
    (Decision.utilizationPercent usage current).lt policy.lowerThreshold = true := by
  by_cases below : (Decision.utilizationPercent usage current).lt policy.lowerThreshold = true
  · exact below
  · rw [verdict, if_neg below] at down
    split at down <;> cases down

theorem verdict_eq_scaleUp_iff {current : Nat} :
    policy.verdict usage current = .scaleUp ↔
      policy.upperThreshold.lt (Decision.utilizationPercent usage current) = true := by
  constructor
  · exact lt_of_verdict_scaleUp
  · intro above
    rw [verdict, if_pos above]

/-- No usage is beyond both thresholds of an accepted policy. -/
theorem IsAccepted.verdict_eq_scaleDown_iff (accepted : policy.IsAccepted) {current : Nat} :
    policy.verdict usage current = .scaleDown ↔
      (Decision.utilizationPercent usage current).lt policy.lowerThreshold = true := by
  constructor
  · exact lt_of_verdict_scaleDown
  · intro below
    rw [verdict, if_neg, if_pos below]
    intro above
    have overlapping := Binary64.le_of_lt_of_lt above below
    rw [accepted.order] at overlapping
    exact Bool.false_ne_true overlapping

/-- A step target lies within the bounds. -/
theorem contains_of_stepTarget? {target : Nat}
    (step : policy.stepTarget? dimension usage = some target) :
    (policy.bounds.get dimension).contains target = true :=
  Bounds.contains_of_clamp? step

/-- To leave a configured dimension as it is, is always justified. -/
theorem justifies_keep (configured : allocation.baseline ≠ 0) :
    policy.Justifies dimension usage allocation
      (.keep dimension allocation.baseline
        (Decision.utilizationOf usage allocation.baseline)) where
  about := rfl
  current := rfl
  scaleUp := nofun
  scaleDown := nofun
  noChange _ := rfl
  utilization _ := rfl
  unset nothing := absurd nothing configured

theorem Decides.justifies (decides : policy.Decides dimension usage allocation decision) :
    policy.Justifies dimension usage allocation decision := by
  cases decides with
  | unset nothing =>
      exact ⟨rfl, nothing.symm, nofun, nofun, fun _ => rfl, absurd nothing, fun _ => rfl⟩
  | within configured | blocked configured => exact justifies_keep configured
  | moved configured step agrees =>
      refine ⟨rfl, rfl, ?_, ?_, ?_, fun _ => rfl, fun nothing => absurd nothing configured⟩
      · intro (up : policy.verdict usage allocation.baseline = .scaleUp)
        rw [up] at agrees
        exact ⟨lt_of_verdict_scaleUp up, of_decide_eq_true agrees, contains_of_stepTarget? step⟩
      · intro (down : policy.verdict usage allocation.baseline = .scaleDown)
        rw [down] at agrees
        exact ⟨lt_of_verdict_scaleDown down, of_decide_eq_true agrees,
          contains_of_stepTarget? step⟩
      · intro (none : policy.verdict usage allocation.baseline = .noChange)
        rw [none] at agrees
        cases agrees

/-- A change that is held back leaves the dimension as it is. -/
theorem Justifies.holdBack (justifies : policy.Justifies dimension usage allocation decision) :
    policy.Justifies dimension usage allocation
      (.keep dimension decision.current decision.utilization) := by
  by_cases nothing : allocation.baseline = 0
  · rw [justifies.unset nothing]
    exact (Decides.unset nothing).justifies
  · rw [justifies.current, justifies.utilization nothing]
    exact justifies_keep nothing

theorem exists_decideResting? (accepted : policy.IsAccepted) (cooldowns : CooldownTable)
    (now : Instant) (sample : Sample) (dimension : Dimension) :
    ∃ decision, policy.decideResting? cooldowns now sample dimension = some decision ∧
      policy.Justifies dimension (sample.usage.get dimension) (sample.allocation.get dimension)
        decision := by
  obtain ⟨decision, decided⟩ :=
    exists_decide? (accepted.ordered dimension) (sample.usage.get dimension)
      (sample.allocation.get dimension)
  have justifies := (decide?_eq_some_iff.mp decided).justifies
  rw [decideResting?, decided, Option.map_some]
  refine ⟨_, rfl, ?_⟩
  split
  · exact justifies.holdBack
  · exact justifies

/-- An accepted policy makes a plan for every sample, whatever is known of earlier changes, and
each of its decisions is justified by the usage and by what is configured. -/
theorem accepted_policy_justifies_decisions (accepted : policy.check = .ok ())
    (cooldowns : CooldownTable) (now : Instant) (sample : Sample) :
    ∃ plan, policy.assess? cooldowns now sample = some plan ∧
      plan.container = sample.container ∧ plan.allocation = sample.allocation ∧
      ∀ dimension, policy.Justifies dimension (sample.usage.get dimension)
        (sample.allocation.get dimension) (plan.decisions.get dimension) := by
  have isAccepted := check_eq_ok_iff.mp accepted
  obtain ⟨cpu, cpuDecided, cpuJustifies⟩ :=
    exists_decideResting? isAccepted cooldowns now sample .cpu
  obtain ⟨memory, memoryDecided, memoryJustifies⟩ :=
    exists_decideResting? isAccepted cooldowns now sample .memory
  refine ⟨⟨sample.container, ⟨cpu, memory⟩, sample.allocation⟩, ?_, rfl, rfl, ?_⟩
  · simp [assess?, cpuDecided, memoryDecided]
  · rintro (_ | _)
    · exact cpuJustifies
    · exact memoryJustifies

end Policy

/-- A container that uses as much CPU as can be said, requests more CPU than it is limited to, and
has more memory than the default policy allows. -/
def oversizedSample : Sample :=
  ⟨⟨⟨"default", "web"⟩, "app"⟩, ⟨Policy.maxAmount, 20 * 1024 * 1024 * 1024⟩,
    ⟨⟨500, 100⟩, ⟨0, 16 * 1024 * 1024 * 1024⟩⟩⟩

/-- The CPU grows to its maximum.  The memory stays beyond its own, although the usage is above the
upper threshold. -/
theorem Policy.accepted_policy_justifies_decisions_oversized :
    ∃ plan, Policy.default.assess? .empty .last oversizedSample = some plan ∧
      (plan.decisions.get .cpu).verdict = .scaleUp ∧
      100 < (plan.decisions.get .cpu).target ∧
      (Policy.default.bounds.get .cpu).contains (plan.decisions.get .cpu).target = true ∧
      (plan.decisions.get .memory).target = 16 * 1024 * 1024 * 1024 ∧
      (Policy.default.bounds.get .memory).contains (plan.decisions.get .memory).target =
        false := by
  obtain ⟨plan, assessed, -, -, justifies⟩ :=
    Policy.accepted_policy_justifies_decisions Policy.check_default .empty .last oversizedSample
  let found := (Policy.default.assess? .empty .last oversizedSample).get (by decide +kernel)
  obtain rfl : found = plan := Option.some.inj ((Option.some_get _).trans assessed)
  have cpuUp : (found.decisions.get .cpu).verdict = .scaleUp := by decide +kernel
  have memoryKept : (found.decisions.get .memory).verdict = .noChange := by decide +kernel
  have cpu := justifies .cpu
  have memory := justifies .memory
  obtain ⟨-, grows, within⟩ := cpu.scaleUp cpuUp
  have current : (found.decisions.get .cpu).current = 100 := by
    rw [cpu.current]
    decide +kernel
  have target : (found.decisions.get .memory).target = 16 * 1024 * 1024 * 1024 := by
    rw [memory.noChange memoryKept, memory.current]
    decide +kernel
  rw [current] at grows
  exact ⟨found, assessed, cpuUp, grows, within, target, by decide +kernel⟩

end PodSizing
