import PodSizing.Proofs.Decision.Decrease

/-!
# Changes that leave nothing configured

Zero stands for a value that is not set, but to the bounds of a policy it is a value like any
other.  Where the minimum is zero, a dimension with hardly any usage is lowered to nothing and then
counts as not configured; no policy changes it again.  `change_unsets_dimension_iff` says when this
happens, and that a minimum of at least one rules it out.
-/

namespace PodSizing

namespace Policy

variable {policy : Policy} {dimension : Dimension} {usage : Nat} {allocation : Allocation}
  {decision : Decision}

/-- The step target is zero: the bounds allow it, and either nothing else or the product of the
usage with the multiplier is less than a half. -/
def StepsToZero (policy : Policy) (dimension : Dimension) (usage : Nat) : Prop :=
  (policy.bounds.get dimension).min = 0 ∧
    ((policy.bounds.get dimension).max = 0 ∨
      (Binary64.ofNat usage * policy.stepMultiplier).lt .half = true)

theorem IsAccepted.product_rounds_to_zero_iff (accepted : policy.IsAccepted) :
    (Binary64.ofNat usage * policy.stepMultiplier).roundToNat maxAmount = 0 ↔
      (Binary64.ofNat usage * policy.stepMultiplier).lt .half = true := by
  apply Binary64.roundToNat_eq_zero_iff _ (by decide : 0 < maxAmount)
  rw [Binary64.ofNat_eq_ofUnits]
  exact (Binary64.isUnsigned_ofUnits ..).mul accepted.finite accepted.positive

theorem stepTarget?_eq_zero_iff (accepted : policy.IsAccepted) :
    policy.stepTarget? dimension usage = some 0 ↔ policy.StepsToZero dimension usage := by
  have ordered := accepted.ordered dimension
  rw [stepTarget?, Bounds.clamp?_eq_some_iff, StepsToZero,
    ← accepted.product_rounds_to_zero_iff]
  omega

/-- A dimension is changed to zero exactly when its utilization lies below the lower threshold and
its step target is zero. -/
theorem Decides.changes_to_zero_iff (accepted : policy.IsAccepted)
    (decides : policy.Decides dimension usage allocation decision)
    (configured : allocation.baseline ≠ 0) :
    decision.isChange = true ∧ decision.target = 0 ↔
      (Decision.utilizationPercent usage allocation.baseline).lt policy.lowerThreshold = true ∧
        policy.StepsToZero dimension usage := by
  constructor
  · rintro ⟨changes, zero⟩
    have step := decides.step_of_isChange changes
    rw [zero] at step
    refine ⟨?_, (stepTarget?_eq_zero_iff accepted).mp step⟩
    obtain ⟨-, agrees⟩ := decides.agrees_of_isChange changes
    cases verdict : decision.verdict with
    | noChange => simp [Decision.isChange, verdict] at changes
    | scaleUp => simp [verdict, Verdict.agrees, zero] at agrees
    | scaleDown => exact (decides.justifies.scaleDown verdict).1
  · rintro ⟨below, toZero⟩
    have step := (stepTarget?_eq_zero_iff accepted).mpr toZero
    have down : decision.verdict = .scaleDown := by
      rw [decides.verdict_eq_iff step (by decide)]
      exact ⟨configured, accepted.verdict_eq_scaleDown_iff.mpr below,
        decide_eq_true (Nat.pos_of_ne_zero configured)⟩
    have moves : decision.verdict ≠ .noChange := by
      rw [down]
      decide
    exact ⟨by simp [Decision.isChange, down], decides.target_eq step moves⟩

/-- With a multiplier of at least one only what nobody uses has a product below one half. -/
theorem IsAccepted.product_lt_half_iff (accepted : policy.IsAccepted)
    (atLeastOne : (Binary64.ofNat 1).le policy.stepMultiplier = true)
    (exact : usage < Nat.pow 2 53) :
    (Binary64.ofNat usage * policy.stepMultiplier).lt .half = true ↔ usage = 0 := by
  rw [← accepted.product_rounds_to_zero_iff]
  constructor
  · intro zero
    have covers := usage_le_product accepted.finite atLeastOne exact
    rw [zero] at covers
    exact Nat.le_zero.mp covers
  · rintro rfl
    rw [Binary64.ofNat_zero_mul accepted.finite accepted.positive]
    exact Binary64.roundToNat_ofNat (by decide) (Nat.zero_le maxAmount)

/-- What is not configured stays so under every policy and at every usage. -/
theorem decide?_unset (policy : Policy) (dimension : Dimension) (usage : Nat) :
    policy.decide? dimension usage .unset = some (.keep dimension 0 (.zero false)) := rfl

/-- An accepted policy makes a decision about every configured dimension.  It is a change that
leaves nothing configured exactly when the utilization lies below the lower threshold and the step
target is zero, which takes a minimum of zero.  Nothing is decided about the dimension from then
on.  With a multiplier of at least one, and a maximum, this happens to dimensions that nobody uses
and to no others. -/
theorem change_unsets_dimension_iff (accepted : policy.check = .ok ()) (dimension : Dimension)
    (usage : Nat) :
    (∀ allocation, ∃ decision, policy.decide? dimension usage allocation = some decision) ∧
    (∀ plan : Plan,
      let allocation := plan.allocation.get dimension
      let decision := plan.decisions.get dimension
      let written := (plan.patch dimension).write allocation
      allocation.baseline ≠ 0 → policy.decide? dimension usage allocation = some decision →
      (decision.isChange = true ∧ written.baseline = 0 ↔
        (Decision.utilizationPercent usage allocation.baseline).lt policy.lowerThreshold = true ∧
          policy.StepsToZero dimension usage) ∧
      (decision.isChange = true → 0 < (policy.bounds.get dimension).min →
        written.baseline ≠ 0) ∧
      (written.baseline = 0 → ∀ (other : Policy) (later : Nat),
        other.decide? dimension later written = some (.keep dimension 0 (.zero false)))) ∧
    ((Binary64.ofNat 1).le policy.stepMultiplier = true → usage < Nat.pow 2 53 →
      (policy.StepsToZero dimension usage ↔ (policy.bounds.get dimension).min = 0 ∧
        ((policy.bounds.get dimension).max = 0 ∨ usage = 0))) := by
  have isAccepted := check_eq_ok_iff.mp accepted
  refine ⟨exists_decide? (isAccepted.ordered dimension) usage, ?_, ?_⟩
  · intro plan allocation decision written configured decided
    have baseline : written.baseline = decision.target :=
      Patch.baseline_write_ofDecision dimension decision allocation
    have unsets := (decide?_eq_some_iff.mp decided).changes_to_zero_iff isAccepted configured
    rw [← baseline] at unsets
    refine ⟨unsets, ?_, ?_⟩
    · intro changes positive zero
      obtain ⟨-, least, -⟩ := unsets.mp ⟨changes, zero⟩
      exact Nat.ne_of_gt positive least
    · intro zero other later
      rw [Allocation.isUnset_iff.mp (Allocation.isUnset_iff_baseline.mpr zero)]
      exact decide?_unset other dimension later
  · intro atLeastOne exact
    rw [StepsToZero, isAccepted.product_lt_half_iff atLeastOne exact]

/-- The default policy without a minimum for the CPU. -/
def unboundedBelow : Policy :=
  { Policy.default with bounds := ⟨⟨0, 4000⟩, Policy.default.bounds.memory⟩ }

/-- An accepted policy is accepted with any other bounds that are not inverted. -/
theorem IsAccepted.withBounds (accepted : policy.IsAccepted) {bounds : PerDimension Bounds}
    (ordered : ∀ dimension, (bounds.get dimension).isInverted = false) :
    { policy with bounds }.IsAccepted :=
  ⟨accepted.upper, accepted.lower, accepted.order, ordered, accepted.finite, accepted.positive⟩

theorem check_unboundedBelow : unboundedBelow.check = .ok () := by
  have ordered (dimension : Dimension) :
      (unboundedBelow.bounds.get dimension).isInverted = false := by
    cases dimension <;> decide
  exact check_eq_ok_iff.mpr ((check_eq_ok_iff.mp check_default).withBounds ordered)

/-- A container that does not use its CPU. -/
def idleSample : Sample :=
  ⟨⟨⟨"default", "web"⟩, "app"⟩, ⟨0, 200⟩, ⟨⟨100, 100⟩, ⟨200, 400⟩⟩⟩

/-- The plan that lowers the CPU of this container. -/
def idlePlan (target : Nat) : Plan where
  container := idleSample.container
  decisions :=
    ⟨⟨.cpu, .scaleDown, 100, target, Decision.utilizationOf 0 100⟩,
      .keep .memory 400 (Decision.utilizationOf 200 400)⟩
  allocation := idleSample.allocation

/-- What is planned was decided for the CPU. -/
theorem decide?_of_idlePlan {policy : Policy} {target : Nat}
    (assessed : policy.assess? .empty .last idleSample = some (idlePlan target)) :
    policy.decide? .cpu 0 ⟨100, 100⟩ = some ((idlePlan target).decisions.get .cpu) :=
  decide?_of_decideResting? ((assess?_eq_some_iff.mp assessed).2.2 .cpu) rfl

theorem assess?_idle :
    Policy.default.assess? .empty .last idleSample = some (idlePlan 10) ∧
      unboundedBelow.assess? .empty .last idleSample = some (idlePlan 0) := by
  decide +kernel

/-- The default policy lowers an unused CPU to its minimum, and to nothing where this is zero. -/
theorem change_unsets_dimension_iff_idle :
    (Policy.default.assess? .empty .last idleSample = some (idlePlan 10) ∧
      (((idlePlan 10).patch .cpu).write ⟨100, 100⟩).baseline ≠ 0) ∧
    unboundedBelow.assess? .empty .last idleSample = some (idlePlan 0) ∧
      (Decision.utilizationPercent 0 100).lt unboundedBelow.lowerThreshold = true ∧
      unboundedBelow.StepsToZero .cpu 0 := by
  have configured : (⟨100, 100⟩ : Allocation).baseline ≠ 0 := by decide
  obtain ⟨bounded, unbounded⟩ := assess?_idle
  constructor
  · obtain ⟨-, unsets, -⟩ := change_unsets_dimension_iff check_default .cpu 0
    obtain ⟨-, kept, -⟩ := unsets (idlePlan 10) configured (decide?_of_idlePlan bounded)
    exact ⟨bounded, kept rfl (by decide)⟩
  · obtain ⟨-, unsets, -⟩ := change_unsets_dimension_iff check_unboundedBelow .cpu 0
    obtain ⟨unset, -, -⟩ := unsets (idlePlan 0) configured (decide?_of_idlePlan unbounded)
    exact ⟨unbounded, unset.mp ⟨rfl, rfl⟩⟩

/-- Without a minimum, an unused CPU with a request and a limit of 100 millicores is left with
neither. -/
theorem idle_dimension_left_unset :
    unboundedBelow.check = .ok () ∧ (⟨100, 100⟩ : Allocation).baseline ≠ 0 ∧
      unboundedBelow.assess? .empty .last idleSample = some (idlePlan 0) ∧
      unboundedBelow.decide? .cpu 0 ⟨100, 100⟩ = some ((idlePlan 0).decisions.get .cpu) ∧
      ((idlePlan 0).decisions.get .cpu).isChange = true ∧
      ((idlePlan 0).patch .cpu).write ⟨100, 100⟩ = .unset :=
  ⟨check_unboundedBelow, by decide, assess?_idle.2, decide?_of_idlePlan assess?_idle.2, rfl, rfl⟩

end Policy

end PodSizing
