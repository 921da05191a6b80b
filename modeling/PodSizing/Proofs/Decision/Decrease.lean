import PodSizing.Proofs.Binary64.Order
import PodSizing.Proofs.Decision.Guarantee

/-!
# How far a dimension is lowered

With a multiplier of at least one the step target of a usage is no less than the usage, until it is
moved into the bounds.  Only the maximum can bring it down from there, so a dimension is lowered
below its usage exactly where the policy allows less than is used.
-/

namespace PodSizing

/-- The bounds move a value down only to their maximum. -/
theorem Bounds.le_of_clamp? {bounds : Bounds} {value clamped : Nat}
    (clamps : bounds.clamp? value = some clamped) :
    (value ≤ bounds.max → value ≤ clamped) ∧ (bounds.max ≤ value → clamped = bounds.max) := by
  obtain ⟨ordered, rfl⟩ := clamp?_eq_some_iff.mp clamps
  omega

namespace Policy

variable {policy : Policy} {dimension : Dimension} {usage : Nat}

/-- The product of a usage with a multiplier of at least one covers the usage. -/
theorem usage_le_product (finite : policy.stepMultiplier.isFinite = true)
    (atLeastOne : (Binary64.ofNat 1).le policy.stepMultiplier = true)
    (exact : usage < Nat.pow 2 53) :
    usage ≤ (Binary64.ofNat usage * policy.stepMultiplier).roundToNat maxAmount := by
  have amount : usage ≤ maxAmount := Nat.le_trans (Nat.le_of_lt exact) (by decide)
  calc usage
      = (Binary64.ofNat usage).roundToNat maxAmount :=
        (Binary64.roundToNat_ofNat exact amount).symm
    _ ≤ _ := Binary64.roundToNat_mono maxAmount (Binary64.ofNat_le_mul exact atLeastOne finite)

/-- The step target of a usage lies below the usage exactly when the maximum does, and then it is
the maximum. -/
theorem stepTarget?_lt_iff (finite : policy.stepMultiplier.isFinite = true)
    (atLeastOne : (Binary64.ofNat 1).le policy.stepMultiplier = true)
    (exact : usage < Nat.pow 2 53) {target : Nat}
    (step : policy.stepTarget? dimension usage = some target) :
    (target < usage ↔ (policy.bounds.get dimension).max < usage) ∧
      ((policy.bounds.get dimension).max < usage → target = (policy.bounds.get dimension).max) := by
  have covers := usage_le_product finite atLeastOne exact
  obtain ⟨within, beyond⟩ := Bounds.le_of_clamp? step
  generalize (Binary64.ofNat usage * policy.stepMultiplier).roundToNat maxAmount = product
    at covers within beyond
  omega

/-- An accepted policy with a multiplier of at least one makes a decision about every usage below
`2 ^ 53`.  Where it lowers the dimension, the target lies below the usage exactly when the maximum
of the policy does, and then the target is the maximum. -/
theorem decrease_covers_usage_within_maximum (accepted : policy.check = .ok ())
    (atLeastOne : (Binary64.ofNat 1).le policy.stepMultiplier = true)
    (exact : usage < Nat.pow 2 53) (dimension : Dimension) (allocation : Allocation) :
    ∃ decision, policy.decide? dimension usage allocation = some decision ∧
      (decision.verdict = .scaleDown →
        (decision.target < usage ↔ (policy.bounds.get dimension).max < usage) ∧
        ((policy.bounds.get dimension).max < usage →
          decision.target = (policy.bounds.get dimension).max)) := by
  have isAccepted := check_eq_ok_iff.mp accepted
  obtain ⟨decision, decided⟩ := exists_decide? (isAccepted.ordered dimension) usage allocation
  refine ⟨decision, decided, ?_⟩
  intro down
  have changes : decision.isChange = true := by simp [Decision.isChange, down]
  have step := (decide?_eq_some_iff.mp decided).step_of_isChange changes
  exact stepTarget?_lt_iff isAccepted.finite atLeastOne exact step

/-- What is used lies within the bounds of the CPU and beyond those of the memory. -/
theorem decrease_covers_usage_within_maximum_and_beyond :
    (∃ decision, Policy.default.decide? .cpu 100 ⟨500, 1000⟩ = some decision ∧
      decision.verdict = .scaleDown ∧ 100 ≤ decision.target) ∧
    ∃ decision, Policy.default.decide? .memory (10 * 1024 * 1024 * 1024)
        ⟨0, 64 * 1024 * 1024 * 1024⟩ = some decision ∧
      decision.verdict = .scaleDown ∧ decision.target = 8 * 1024 * 1024 * 1024 := by
  have atLeastOne : (Binary64.ofNat 1).le Policy.default.stepMultiplier = true := by
    decide +kernel
  constructor
  · obtain ⟨decision, decided, covers⟩ := decrease_covers_usage_within_maximum check_default
      atLeastOne (by decide : 100 < Nat.pow 2 53) .cpu ⟨500, 1000⟩
    let found := (Policy.default.decide? .cpu 100 ⟨500, 1000⟩).get (by decide +kernel)
    obtain rfl : found = decision := Option.some.inj ((Option.some_get _).trans decided)
    have down : found.verdict = .scaleDown := by decide +kernel
    have within : ¬ (Policy.default.bounds.get .cpu).max < 100 := by decide
    exact ⟨found, decided, down, Nat.not_lt.mp (mt (covers down).1.mp within)⟩
  · obtain ⟨decision, decided, covers⟩ := decrease_covers_usage_within_maximum check_default
      atLeastOne (by decide : 10 * 1024 * 1024 * 1024 < Nat.pow 2 53) .memory
      ⟨0, 64 * 1024 * 1024 * 1024⟩
    let found := (Policy.default.decide? .memory (10 * 1024 * 1024 * 1024)
      ⟨0, 64 * 1024 * 1024 * 1024⟩).get (by decide +kernel)
    obtain rfl : found = decision := Option.some.inj ((Option.some_get _).trans decided)
    have down : found.verdict = .scaleDown := by decide +kernel
    exact ⟨found, decided, down, (covers down).2 (by decide)⟩

/-- A container that is limited to 64 GiB and uses 10 GiB is lowered to 8 GiB, the most that the
default policy allows. -/
theorem decrease_below_usage :
    Policy.default.check = .ok () ∧
      (Binary64.ofNat 1).le Policy.default.stepMultiplier = true ∧
      10 * 1024 * 1024 * 1024 < Nat.pow 2 53 ∧
      ∃ decision, Policy.default.decide? .memory (10 * 1024 * 1024 * 1024)
          ⟨0, 64 * 1024 * 1024 * 1024⟩ = some decision ∧
        decision.verdict = .scaleDown ∧ decision.target < 10 * 1024 * 1024 * 1024 := by
  refine ⟨check_default, by decide +kernel, by decide, ?_⟩
  let found := (Policy.default.decide? .memory (10 * 1024 * 1024 * 1024)
    ⟨0, 64 * 1024 * 1024 * 1024⟩).get (by decide +kernel)
  exact ⟨found, (Option.some_get _).symm, by decide +kernel, by decide +kernel⟩

end Policy

end PodSizing
