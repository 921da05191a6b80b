import PodSizing.Proofs.Binary64.Quotient
import PodSizing.Proofs.Decision.Guarantee

/-!
# Whole thresholds

Usage in percent is a rounded quotient, but against a threshold of a whole number of percent it
compares as the exact quotient does: a dimension grows exactly when a hundred times its usage
exceeds the threshold times what is configured, and shrinks exactly when it falls short of it, as
far as the step target lies in this direction.
-/

namespace PodSizing.Policy

variable {policy : Policy} {dimension : Dimension} {allocation : Allocation}
  {usage current lower upper : Nat}

theorem utilizationPercent_eq (exact : 100 * usage < Nat.pow 2 53) :
    Decision.utilizationPercent usage current = .ofNat (100 * usage) / .ofNat current := by
  have usageLt : usage < Nat.pow 2 53 :=
    Nat.lt_of_le_of_lt (Nat.le_mul_of_pos_left usage (by decide)) exact
  rw [Decision.utilizationPercent, Binary64.ofNat_mul_ofNat usageLt (by decide), Nat.mul_comm]

/-- The thresholds of an accepted policy are in order. -/
theorem IsAccepted.whole_lt (accepted : policy.IsAccepted)
    (upperWhole : policy.upperThreshold.IsWhole upper)
    (lowerWhole : policy.lowerThreshold.IsWhole lower) : lower < upper := by
  apply Nat.lt_of_not_le
  intro inverted
  have le : policy.upperThreshold.le policy.lowerThreshold = true :=
    (Binary64.le_iff_of_position upperWhole.2 lowerWhole.2).mpr
      (Int.ofNat_le.mpr (Nat.mul_le_mul_right _ inverted))
  rw [accepted.order] at le
  exact Bool.false_ne_true le

section Exact

variable (accepted : policy.IsAccepted) (upperWhole : policy.upperThreshold.IsWhole upper)
  (lowerWhole : policy.lowerThreshold.IsWhole lower) (configured : 0 < current)
  (usageExact : 100 * usage < Nat.pow 2 53) (exact : upper * current < Nat.pow 2 53)

include accepted upperWhole lowerWhole configured usageExact exact

/-- The usage is judged by the exact part that it is of what is configured. -/
theorem verdict_iff_of_whole :
    (policy.verdict usage current = .scaleUp ↔ upper * current < 100 * usage) ∧
      (policy.verdict usage current = .scaleDown ↔ 100 * usage < lower * current) := by
  have ordered := accepted.whole_lt upperWhole lowerWhole
  have upperLt : upper < Nat.pow 2 53 :=
    Nat.lt_of_le_of_lt (Nat.le_mul_of_pos_right upper configured) exact
  have currentLt : current < Nat.pow 2 53 :=
    Nat.lt_of_le_of_lt (Nat.le_mul_of_pos_left current (Nat.zero_lt_of_lt ordered)) exact
  have lowerLt := Nat.lt_trans ordered upperLt
  constructor
  · rw [verdict_eq_scaleUp_iff, utilizationPercent_eq usageExact]
    exact upperWhole.lt_div_iff usageExact upperLt configured currentLt
  · rw [accepted.verdict_eq_scaleDown_iff, utilizationPercent_eq usageExact]
    exact lowerWhole.div_lt_iff usageExact lowerLt configured currentLt

end Exact

/-- An accepted policy with whole thresholds decides without an error of rounding: it raises a
dimension exactly when a hundred times the usage exceeds the upper threshold times what is
configured and the step target exceeds what is configured, and lowers it exactly when the usage
falls short of the lower threshold and the target of what is configured.  A usage on a threshold
changes nothing. -/
theorem whole_thresholds_are_exact (accepted : policy.check = .ok ())
    (upperWhole : policy.upperThreshold.IsWhole upper)
    (lowerWhole : policy.lowerThreshold.IsWhole lower) (dimension : Dimension)
    (configured : 0 < allocation.baseline) (usageExact : 100 * usage < Nat.pow 2 53)
    (exact : upper * allocation.baseline < Nat.pow 2 53) :
    ∃ decision target,
      policy.decide? dimension usage allocation = some decision ∧
      policy.stepTarget? dimension usage = some target ∧
      (decision.verdict = .scaleUp ↔
        upper * allocation.baseline < 100 * usage ∧ allocation.baseline < target) ∧
      (decision.verdict = .scaleDown ↔
        100 * usage < lower * allocation.baseline ∧ target < allocation.baseline) ∧
      (100 * usage = upper * allocation.baseline ∨ 100 * usage = lower * allocation.baseline →
        decision = .keep dimension allocation.baseline decision.utilization) := by
  have isAccepted := check_eq_ok_iff.mp accepted
  obtain ⟨target, step⟩ := exists_stepTarget? (isAccepted.ordered dimension) usage
  obtain ⟨decision, decided⟩ := exists_decide? (isAccepted.ordered dimension) usage allocation
  have decides := decide?_eq_some_iff.mp decided
  have set : allocation.baseline ≠ 0 := Nat.ne_of_gt configured
  obtain ⟨beyondUpper, beyondLower⟩ :=
    verdict_iff_of_whole isAccepted upperWhole lowerWhole configured usageExact exact
  have up : decision.verdict = .scaleUp ↔
      upper * allocation.baseline < 100 * usage ∧ allocation.baseline < target := by
    rw [decides.verdict_eq_iff step (by simp), beyondUpper]
    simp [set, Verdict.agrees]
  have down : decision.verdict = .scaleDown ↔
      100 * usage < lower * allocation.baseline ∧ target < allocation.baseline := by
    rw [decides.verdict_eq_iff step (by simp), beyondLower]
    simp [set, Verdict.agrees]
  refine ⟨decision, target, decided, step, up, down, ?_⟩
  intro onThreshold
  have spread : lower * allocation.baseline < upper * allocation.baseline :=
    Nat.mul_lt_mul_of_pos_right (isAccepted.whole_lt upperWhole lowerWhole) configured
  apply decides.eq_keep
  cases verdict : decision.verdict with
  | noChange => simp [Decision.isChange, verdict]
  | scaleUp =>
      have above := (up.mp verdict).1
      omega
  | scaleDown =>
      have below := (down.mp verdict).1
      omega

/-- The default policy with a multiplier of one and a half. -/
def boldPolicy : Policy :=
  { Policy.default with stepMultiplier := .ofDecimal false 15 (-1) }

theorem check_boldPolicy : boldPolicy.check = .ok () := by
  rw [check_eq_ok_iff]
  constructor
  case bounds => rintro (_ | _) <;> decide +kernel
  all_goals decide +kernel

/-- Four of five GiB are eighty percent exactly, and one byte more is beyond. -/
theorem whole_thresholds_are_exact_to_the_byte :
    ∃ decision other,
      boldPolicy.decide? .memory (4 * 1024 * 1024 * 1024) ⟨0, 5 * 1024 * 1024 * 1024⟩ =
        some decision ∧
      boldPolicy.decide? .memory (4 * 1024 * 1024 * 1024 + 1) ⟨0, 5 * 1024 * 1024 * 1024⟩ =
        some other ∧
      decision.isChange = false ∧ other.verdict = .scaleUp := by
  have upperWhole : boldPolicy.upperThreshold.IsWhole 80 := by decide +kernel
  have lowerWhole : boldPolicy.lowerThreshold.IsWhole 30 := by decide +kernel
  obtain ⟨decision, -, decided, -, -, -, kept⟩ :=
    whole_thresholds_are_exact check_boldPolicy upperWhole lowerWhole .memory
      (by decide : 0 < (⟨0, 5 * 1024 * 1024 * 1024⟩ : Allocation).baseline)
      (by decide : 100 * (4 * 1024 * 1024 * 1024) < Nat.pow 2 53) (by decide)
  obtain ⟨other, target, otherDecided, step, up, -, -⟩ :=
    whole_thresholds_are_exact check_boldPolicy upperWhole lowerWhole .memory
      (by decide : 0 < (⟨0, 5 * 1024 * 1024 * 1024⟩ : Allocation).baseline)
      (by decide : 100 * (4 * 1024 * 1024 * 1024 + 1) < Nat.pow 2 53) (by decide)
  have sixGiB : boldPolicy.stepTarget? .memory (4 * 1024 * 1024 * 1024 + 1) =
      some (6 * 1024 * 1024 * 1024 + 2) := by
    decide +kernel
  obtain rfl : 6 * 1024 * 1024 * 1024 + 2 = target := Option.some.inj (sixGiB.symm.trans step)
  refine ⟨decision, other, decided, otherDecided, ?_, up.mpr ⟨by decide, by decide⟩⟩
  rw [kept (.inl (by decide))]
  exact Decision.isChange_keep ..

end PodSizing.Policy
