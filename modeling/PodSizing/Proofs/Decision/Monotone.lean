import PodSizing.Proofs.Decision.Guarantee

/-!
# More usage, no lower decision

Every step from a usage to a decision keeps the order: usage in percent, the product with the
multiplier, the whole number nearest to it, and the move into the bounds.  So a dimension that
grows at one usage grows at every greater one, and one that shrinks at a usage shrinks at every
lesser one, never to a lower value at the greater usage.
-/

namespace PodSizing

/-- The bounds keep the order of what is moved into them. -/
theorem Bounds.clamp?_mono {bounds : Bounds} {value other clamped otherClamped : Nat}
    (le : value ≤ other) (clamps : bounds.clamp? value = some clamped)
    (otherClamps : bounds.clamp? other = some otherClamped) : clamped ≤ otherClamped := by
  obtain ⟨-, rfl⟩ := clamp?_eq_some_iff.mp clamps
  obtain ⟨-, rfl⟩ := clamp?_eq_some_iff.mp otherClamps
  omega

namespace Policy

variable {policy : Policy} {dimension : Dimension} {allocation : Allocation}
  {usage larger current : Nat}

open Binary64 (AtMost)

/-- A greater usage is no smaller part of what is configured. -/
theorem utilizationPercent_atMost (configured : 0 < current) (amount : current ≤ maxAmount)
    (le : usage ≤ larger) :
    AtMost (Decision.utilizationPercent usage current)
      (Decision.utilizationPercent larger current) := by
  have currentLt : current < Nat.pow 2 64 := Nat.lt_of_le_of_lt amount (by decide)
  have scaled : AtMost (.ofNat usage * .ofNat 100) (.ofNat larger * .ofNat 100) :=
    (Binary64.atMost_ofNat le).mul (Binary64.isFinite_ofNat (by decide))
      (Binary64.zero_lt_ofNat (by decide))
  exact scaled.div (Binary64.isFinite_ofNat currentLt) (Binary64.zero_lt_ofNat configured)

/-- A greater usage has no lower step target. -/
theorem IsAccepted.stepTarget?_mono (accepted : policy.IsAccepted) (le : usage ≤ larger)
    {target largerTarget : Nat} (step : policy.stepTarget? dimension usage = some target)
    (largerStep : policy.stepTarget? dimension larger = some largerTarget) :
    target ≤ largerTarget := by
  have product_le := ((Binary64.atMost_ofNat le).mul accepted.finite accepted.positive).le
  exact Bounds.clamp?_mono (Binary64.roundToNat_mono maxAmount product_le) step largerStep

section TwoUsages

variable {target largerTarget : Nat} {decision largerDecision : Decision}
  (accepted : policy.IsAccepted) (amount : allocation.baseline ≤ maxAmount) (le : usage ≤ larger)
  (step : policy.stepTarget? dimension usage = some target)
  (largerStep : policy.stepTarget? dimension larger = some largerTarget)
  (decides : policy.Decides dimension usage allocation decision)
  (largerDecides : policy.Decides dimension larger allocation largerDecision)

include accepted amount le step largerStep decides largerDecides

/-- A dimension that grows at one usage grows at a greater one. -/
private theorem grows_at_larger (grows : decision.verdict = .scaleUp) :
    largerDecision.verdict = .scaleUp ∧ decision.target ≤ largerDecision.target := by
  obtain ⟨configured, up, agrees⟩ := (decides.verdict_eq_iff step (by simp)).mp grows
  have target_le := accepted.stepTarget?_mono le step largerStep
  have percent_le := utilizationPercent_atMost (Nat.pos_of_ne_zero configured) amount le
  have largerUp : policy.verdict larger allocation.baseline = .scaleUp :=
    verdict_eq_scaleUp_iff.mpr (percent_le.lt_of_lt (verdict_eq_scaleUp_iff.mp up))
  have above : allocation.baseline < largerTarget :=
    Nat.lt_of_lt_of_le (of_decide_eq_true agrees) target_le
  have grown : largerDecision.verdict = .scaleUp :=
    (largerDecides.verdict_eq_iff largerStep (by simp)).mpr
      ⟨configured, largerUp, decide_eq_true above⟩
  refine ⟨grown, ?_⟩
  rwa [decides.target_eq step (by simp [grows]),
    largerDecides.target_eq largerStep (by simp [grown])]

/-- A dimension that shrinks at one usage shrinks at a lesser one. -/
private theorem shrinks_at_lesser (shrinks : largerDecision.verdict = .scaleDown) :
    decision.verdict = .scaleDown ∧ decision.target ≤ largerDecision.target := by
  obtain ⟨configured, largerDown, agrees⟩ :=
    (largerDecides.verdict_eq_iff largerStep (by simp)).mp shrinks
  have target_le := accepted.stepTarget?_mono le step largerStep
  have percent_le := utilizationPercent_atMost (Nat.pos_of_ne_zero configured) amount le
  have down : policy.verdict usage allocation.baseline = .scaleDown :=
    accepted.verdict_eq_scaleDown_iff.mpr
      (percent_le.lt_of_gt (accepted.verdict_eq_scaleDown_iff.mp largerDown))
  have below : target < allocation.baseline :=
    Nat.lt_of_le_of_lt target_le (of_decide_eq_true agrees)
  have shrunk : decision.verdict = .scaleDown :=
    (decides.verdict_eq_iff step (by simp)).mpr ⟨configured, down, decide_eq_true below⟩
  refine ⟨shrunk, ?_⟩
  rwa [decides.target_eq step (by simp [shrunk]),
    largerDecides.target_eq largerStep (by simp [shrinks])]

/-- Where both usages lead to the same verdict, the lesser one has no higher target. -/
private theorem target_le_of_same_verdict (same : decision.verdict = largerDecision.verdict) :
    decision.target ≤ largerDecision.target := by
  cases verdict : decision.verdict with
  | scaleUp =>
      exact (grows_at_larger accepted amount le step largerStep decides largerDecides verdict).2
  | scaleDown =>
      exact (shrinks_at_lesser accepted amount le step largerStep decides largerDecides
        (same.symm.trans verdict)).2
  | noChange =>
      have kept := decides.eq_keep (by simp [Decision.isChange, verdict])
      have largerKept := largerDecides.eq_keep (by simp [Decision.isChange, ← same, verdict])
      rw [kept, largerKept]
      exact Nat.le_refl _

end TwoUsages

/-- An accepted policy decides about every usage, and more usage never leads to a lower decision:
the step target is at least as great, a dimension that grows still grows, one that shrinks at the
greater usage shrinks at the lesser, and of two resizes in one direction the one at the greater
usage goes at least as high. -/
theorem decisions_follow_usage (accepted : policy.check = .ok ()) (dimension : Dimension)
    (amount : allocation.baseline ≤ maxAmount) (le : usage ≤ larger) :
    ∃ target largerTarget decision largerDecision,
      policy.stepTarget? dimension usage = some target ∧
      policy.stepTarget? dimension larger = some largerTarget ∧
      policy.decide? dimension usage allocation = some decision ∧
      policy.decide? dimension larger allocation = some largerDecision ∧
      target ≤ largerTarget ∧
      (decision.verdict = .scaleUp →
        largerDecision.verdict = .scaleUp ∧ decision.target ≤ largerDecision.target) ∧
      (largerDecision.verdict = .scaleDown →
        decision.verdict = .scaleDown ∧ decision.target ≤ largerDecision.target) ∧
      (decision.verdict = largerDecision.verdict → decision.target ≤ largerDecision.target) := by
  have isAccepted := check_eq_ok_iff.mp accepted
  have ordered := isAccepted.ordered dimension
  obtain ⟨target, step⟩ := exists_stepTarget? ordered usage
  obtain ⟨largerTarget, largerStep⟩ := exists_stepTarget? ordered larger
  obtain ⟨decision, decided⟩ := exists_decide? ordered usage allocation
  obtain ⟨largerDecision, largerDecided⟩ := exists_decide? ordered larger allocation
  have decides := decide?_eq_some_iff.mp decided
  have largerDecides := decide?_eq_some_iff.mp largerDecided
  exact ⟨target, largerTarget, decision, largerDecision, step, largerStep, decided, largerDecided,
    isAccepted.stepTarget?_mono le step largerStep,
    grows_at_larger isAccepted amount le step largerStep decides largerDecides,
    shrinks_at_lesser isAccepted amount le step largerStep decides largerDecides,
    target_le_of_same_verdict isAccepted amount le step largerStep decides largerDecides⟩

/-- The target of the CPU grows with the usage, up to the largest usage that can be said. -/
theorem decisions_follow_usage_to_largest :
    ∃ decision largest,
      Policy.default.decide? .cpu 900 ⟨0, 1000⟩ = some decision ∧
      Policy.default.decide? .cpu maxAmount ⟨0, 1000⟩ = some largest ∧
      decision.verdict = .scaleUp ∧ largest.verdict = .scaleUp ∧ 1080 ≤ largest.target := by
  obtain ⟨-, -, decision, largest, -, -, decided, largestDecided, -, grows, -⟩ :=
    decisions_follow_usage check_default .cpu (by decide : (⟨0, 1000⟩ : Allocation).baseline ≤ _)
      (by decide : 900 ≤ maxAmount)
  let found := (Policy.default.decide? .cpu 900 ⟨0, 1000⟩).get (by decide +kernel)
  obtain rfl : found = decision := Option.some.inj ((Option.some_get _).trans decided)
  have up : found.verdict = .scaleUp := by decide +kernel
  have target : found.target = 1080 := by decide +kernel
  obtain ⟨largestUp, le⟩ := grows up
  exact ⟨found, largest, decided, largestDecided, up, largestUp, target ▸ le⟩

end Policy

end PodSizing
