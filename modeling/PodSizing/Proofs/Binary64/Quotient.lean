import PodSizing.Proofs.Binary64.Monotone

/-!
# Quotients of whole numbers

A quotient of two whole numbers below `2 ^ 53` is rounded, but neither onto a whole number nor
across one.  If it is not whole, it lies apart from every whole number by at least the reciprocal
of the divisor, and this is more than rounding can move it.
-/

namespace PodSizing.Binary64

variable {num den whole : Nat}

/-! ### Rounding near a whole number -/

private theorem roundUnits_whole (wholeLt : whole < Nat.pow 2 53) (positive : 0 < den) :
    roundUnits (whole * den * unitsPerOne) den = whole * unitsPerOne := by
  have scaled := roundUnits_mul_right (whole * unitsPerOne) 1 positive
  rw [Nat.one_mul, roundUnits_of_dvd (dvd_mul_unitsPerOne wholeLt)] at scaled
  rwa [Nat.mul_right_comm]

/-- A quotient that is not zero is rounded to a number near to it. -/
private theorem quotient_near (numPos : 0 < num) (positive : 0 < den) (denLt : den < Nat.pow 2 53) :
    IsNear (num * unitsPerOne) (roundUnits (num * unitsPerOne) den * den) := by
  apply roundUnits_near positive
  calc Nat.pow 2 52 * den
      ≤ Nat.pow 2 52 * Nat.pow 2 53 := Nat.mul_le_mul_left _ (Nat.le_of_lt denLt)
    _ ≤ unitsPerOne := by decide +kernel
    _ ≤ num * unitsPerOne := Nat.le_mul_of_pos_left _ numPos

/-- Exactly the quotients above a whole number are rounded to something above it. -/
theorem whole_lt_roundUnits_iff (exact : num < Nat.pow 2 53) (wholeLt : whole < Nat.pow 2 53)
    (positive : 0 < den) (denLt : den < Nat.pow 2 53) :
    whole * unitsPerOne < roundUnits (num * unitsPerOne) den ↔ whole * den < num := by
  constructor
  · intro above
    apply Nat.lt_of_not_le
    intro le
    have rounded := roundUnits_mono den (Nat.mul_le_mul_right unitsPerOne le)
    rw [roundUnits_whole wholeLt positive] at rounded
    exact Nat.not_le_of_lt above rounded
  · intro above
    apply Nat.lt_of_not_le
    intro rounded
    obtain ⟨near, -⟩ := quotient_near (Nat.zero_lt_of_lt above) positive denLt
    -- At least one whole part of the divisor lies between the quotient and the whole number.
    have gap : whole * den * unitsPerOne + unitsPerOne ≤ num * unitsPerOne := by
      rw [← Nat.succ_mul]
      exact Nat.mul_le_mul_right unitsPerOne above
    have small : num * unitsPerOne < Nat.pow 2 53 * unitsPerOne :=
      Nat.mul_lt_mul_of_pos_right exact unitsPerOne_pos
    have scaled := Nat.mul_le_mul_right den rounded
    rw [Nat.mul_right_comm] at scaled
    simp only [Nat.pow_eq] at near small
    omega

/-- Exactly the quotients below a whole number are rounded to something below it. -/
theorem roundUnits_lt_whole_iff (exact : num < Nat.pow 2 53) (wholeLt : whole < Nat.pow 2 53)
    (positive : 0 < den) (denLt : den < Nat.pow 2 53) :
    roundUnits (num * unitsPerOne) den < whole * unitsPerOne ↔ num < whole * den := by
  constructor
  · intro below
    apply Nat.lt_of_not_le
    intro le
    have rounded := roundUnits_mono den (Nat.mul_le_mul_right unitsPerOne le)
    rw [roundUnits_whole wholeLt positive] at rounded
    exact Nat.not_le_of_lt below rounded
  · intro below
    apply Nat.lt_of_not_le
    intro rounded
    have gap : num * unitsPerOne + unitsPerOne ≤ whole * den * unitsPerOne := by
      rw [← Nat.succ_mul]
      exact Nat.mul_le_mul_right unitsPerOne below
    have small : num * unitsPerOne < Nat.pow 2 53 * unitsPerOne :=
      Nat.mul_lt_mul_of_pos_right exact unitsPerOne_pos
    have scaled := Nat.mul_le_mul_right den rounded
    rw [Nat.mul_right_comm] at scaled
    rcases Nat.eq_zero_or_pos num with rfl | numPos
    · rw [Nat.zero_mul, roundUnits_zero positive, Nat.zero_mul] at scaled
      have onePos := unitsPerOne_pos
      omega
    · obtain ⟨-, near⟩ := quotient_near numPos positive denLt
      simp only [Nat.pow_eq] at near small
      omega

/-! ### Quotients against whole thresholds -/

/-- The number is finite and equal to a whole number; zero may have either sign. -/
def IsWhole (number : Binary64) (whole : Nat) : Prop :=
  number.isFinite = true ∧ number.position = some ((whole * unitsPerOne : Nat) : Int)

instance (number : Binary64) (whole : Nat) : Decidable (number.IsWhole whole) :=
  inferInstanceAs (Decidable (_ ∧ _))

theorem IsWhole.lt_limit {number : Binary64} (isWhole : number.IsWhole whole) :
    whole * unitsPerOne < limit := by
  obtain ⟨finite, place⟩ := isWhole
  cases number with
  | nan | infinity => cases finite
  | finite negative units isMagnitude =>
      have inRange := isMagnitude.1
      rw [position, Option.some.injEq] at place
      split at place <;> omega

/-- The place of what is rounded; what leaves the range is placed at the limit. -/
theorem position_ofUnits (num den : Nat) :
    (ofUnits false num den).position = some ((min (roundUnits num den) limit : Nat) : Int) := by
  rw [ofUnits]
  split
  · rename_i inRange
    rw [Nat.min_eq_left (Nat.le_of_lt inRange)]
    rfl
  · rename_i outOfRange
    rw [Nat.min_eq_right (Nat.le_of_not_lt outOfRange)]
    rfl

/-- The quotient of whole numbers is the number nearest to their quotient. -/
theorem ofNat_div_ofNat (numLt : num < Nat.pow 2 53) (positive : 0 < den)
    (denLt : den < Nat.pow 2 53) :
    ofNat num / ofNat den = ofUnits false (num * unitsPerOne) den := by
  obtain ⟨_, num_eq⟩ := ofNat_eq_finite numLt
  obtain ⟨_, den_eq⟩ := ofNat_eq_finite denLt
  rw [num_eq, den_eq, finite_div_finite (Nat.mul_pos positive unitsPerOne_pos)]
  exact ofUnits_congr (roundUnits_mul_right _ _ unitsPerOne_pos)

section Threshold

variable {threshold : Binary64} (isWhole : threshold.IsWhole whole) (numLt : num < Nat.pow 2 53)
  (wholeLt : whole < Nat.pow 2 53) (positive : 0 < den) (denLt : den < Nat.pow 2 53)

include isWhole numLt wholeLt positive denLt

/-- A quotient lies above a whole threshold exactly when the dividend exceeds its multiple of the
divisor. -/
theorem IsWhole.lt_div_iff : threshold.lt (ofNat num / ofNat den) = true ↔ whole * den < num := by
  have inRange := isWhole.lt_limit
  rw [ofNat_div_ofNat numLt positive denLt, lt_iff_of_position isWhole.2 (position_ofUnits ..),
    Int.ofNat_lt, ← whole_lt_roundUnits_iff numLt wholeLt positive denLt]
  omega

/-- A quotient lies below a whole threshold exactly when the dividend falls short of its multiple
of the divisor. -/
theorem IsWhole.div_lt_iff :
    (ofNat num / ofNat den).lt threshold = true ↔ num < whole * den := by
  have inRange := isWhole.lt_limit
  rw [ofNat_div_ofNat numLt positive denLt, lt_iff_of_position (position_ofUnits ..) isWhole.2,
    Int.ofNat_lt, ← roundUnits_lt_whole_iff numLt wholeLt positive denLt]
  omega

end Threshold

end PodSizing.Binary64
