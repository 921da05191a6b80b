import PodSizing.Binary64

/-!
# Rounding binary64 numbers

What is rounded lies within half a step of what it was rounded from, and the step is small against
a number with all its significant bits.  Whole numbers below `2 ^ 53` are exact, and so are their
products below `2 ^ 53`.  All bounds are inequalities between natural numbers.
-/

namespace PodSizing.Binary64

theorem unitsPerOne_pos : 0 < unitsPerOne := by
  unfold unitsPerOne
  apply Nat.two_pow_pos

theorem le_limit : Nat.pow 2 64 * unitsPerOne ≤ limit := by decide +kernel

/-! ### Rounding to whole numbers -/

/-- A common factor does not matter. -/
theorem roundHalfEven_mul_right (num den : Nat) {factor : Nat} (positive : 0 < factor) :
    roundHalfEven (num * factor) (den * factor) = roundHalfEven num den := by
  simp only [roundHalfEven, Nat.mul_div_mul_right _ _ positive, Nat.mul_mod_mul_right,
    ← Nat.mul_assoc, Nat.mul_lt_mul_right positive, Nat.mul_left_inj (Nat.ne_of_gt positive)]

/-- A whole number is rounded to itself. -/
theorem roundHalfEven_mul_self (whole : Nat) {den : Nat} (positive : 0 < den) :
    roundHalfEven (whole * den) den = whole := by
  simp [roundHalfEven, Nat.mul_div_cancel _ positive, positive]

/-- A quotient is moved by at most one half. -/
theorem roundHalfEven_near (num : Nat) {den : Nat} (positive : 0 < den) :
    2 * num ≤ 2 * (roundHalfEven num den * den) + den ∧
      2 * (roundHalfEven num den * den) ≤ 2 * num + den := by
  have split := Nat.div_add_mod' num den
  have less := Nat.mod_lt num positive
  simp only [roundHalfEven]
  split
  · omega
  · rw [Nat.add_mul, Nat.one_mul]
    omega

/-- Rounding at most doubles a quotient. -/
theorem roundHalfEven_mul_le (num den : Nat) : roundHalfEven num den * den ≤ 2 * num := by
  have split := Nat.div_add_mod' num den
  simp only [roundHalfEven]
  split
  · omega
  · rename_i up
    rw [Nat.add_mul, Nat.one_mul]
    omega

/-! ### Rounding to 53 significant bits -/

theorem roundUnits_mul_right (num den : Nat) {factor : Nat} (positive : 0 < factor) :
    roundUnits (num * factor) (den * factor) = roundUnits num den := by
  simp only [roundUnits, Nat.mul_div_mul_right _ _ positive, Nat.mul_right_comm den factor,
    roundHalfEven_mul_right _ _ positive]

theorem roundUnits_zero {den : Nat} (positive : 0 < den) : roundUnits 0 den = 0 := by
  simp [roundUnits, roundHalfEven, positive]

/-- What has at most 53 significant bits is not changed. -/
theorem roundUnits_of_dvd {units : Nat} (dvd : Nat.pow 2 (units.log2 - 52) ∣ units) :
    roundUnits units 1 = units := by
  obtain ⟨significand, split⟩ := dvd
  have positive : 0 < Nat.pow 2 (units.log2 - 52) := Nat.two_pow_pos _
  rw [Nat.mul_comm] at split
  rw [roundUnits, Nat.div_one, Nat.one_mul]
  generalize Nat.pow 2 (units.log2 - 52) = step at positive split ⊢
  rw [split, roundHalfEven_mul_self significand positive]

/-- The step of a quotient with all its significant bits is its highest bit, 52 places down. -/
private theorem two_pow_mul_step_le {num den : Nat} (positive : 0 < den)
    (large : Nat.pow 2 52 * den ≤ num) :
    Nat.pow 2 52 * (den * Nat.pow 2 ((num / den).log2 - 52)) ≤ num := by
  simp only [Nat.pow_eq] at large ⊢
  have quotient_le : 2 ^ 52 ≤ num / den := (Nat.le_div_iff_mul_le positive).mpr large
  have quotient_ne : num / den ≠ 0 :=
    Nat.ne_of_gt (Nat.lt_of_lt_of_le (Nat.two_pow_pos 52) quotient_le)
  have places : 52 ≤ (num / den).log2 := (Nat.le_log2 quotient_ne).mpr quotient_le
  calc 2 ^ 52 * (den * 2 ^ ((num / den).log2 - 52))
      = den * (2 ^ 52 * 2 ^ ((num / den).log2 - 52)) := Nat.mul_left_comm ..
    _ = den * 2 ^ (num / den).log2 := by rw [← Nat.pow_add, Nat.add_sub_cancel' places]
    _ ≤ den * (num / den) := Nat.mul_le_mul_left den (Nat.log2_self_le quotient_ne)
    _ ≤ num := Nat.mul_div_le num den

/-- The second number lies within the `2 ^ 53`rd part of the first. -/
structure IsNear (exact rounded : Nat) : Prop where
  above : Nat.pow 2 53 * exact ≤ Nat.pow 2 53 * rounded + exact
  below : Nat.pow 2 53 * rounded ≤ Nat.pow 2 53 * exact + exact

theorem IsNear.mul_right {exact rounded : Nat} (near : IsNear exact rounded) (factor : Nat) :
    IsNear (exact * factor) (rounded * factor) := by
  have above := Nat.mul_le_mul_right factor near.above
  have below := Nat.mul_le_mul_right factor near.below
  rw [Nat.add_mul, Nat.mul_assoc, Nat.mul_assoc] at above below
  exact ⟨above, below⟩

theorem IsNear.le_two_mul {exact rounded : Nat} (near : IsNear exact rounded) :
    rounded ≤ 2 * exact := by
  have below := near.below
  simp only [Nat.pow_eq] at below
  omega

theorem IsNear.le_of_two_mul {exact rounded : Nat} (near : IsNear exact rounded) :
    exact ≤ 2 * rounded := by
  have above := near.above
  simp only [Nat.pow_eq] at above
  omega

/-- Rounding moves a quotient with all its significant bits to a number near to it. -/
theorem roundUnits_near {num den : Nat} (positive : 0 < den) (large : Nat.pow 2 52 * den ≤ num) :
    IsNear num (roundUnits num den * den) := by
  have step_pos : 0 < Nat.pow 2 ((num / den).log2 - 52) := Nat.two_pow_pos _
  have step_le := two_pow_mul_step_le positive large
  rw [roundUnits]
  generalize Nat.pow 2 ((num / den).log2 - 52) = step at step_pos step_le ⊢
  obtain ⟨above, below⟩ := roundHalfEven_near num (Nat.mul_pos positive step_pos)
  have eq : roundHalfEven num (den * step) * step * den =
      roundHalfEven num (den * step) * (den * step) := by
    rw [Nat.mul_assoc, Nat.mul_comm step]
  rw [eq]
  simp only [Nat.pow_eq] at step_le
  constructor <;> simp only [Nat.pow_eq] <;> omega

/-! ### Whole numbers -/

/-- Only what is rounded to counts. -/
theorem ofUnits_congr {negative : Bool} {num den otherNum otherDen : Nat}
    (same : roundUnits num den = roundUnits otherNum otherDen) :
    ofUnits negative num den = ofUnits negative otherNum otherDen := by
  simp only [ofUnits, same]

/-- What is rounded within the range is finite. -/
theorem exists_finite_of_roundUnits {negative : Bool} {num den units : Nat}
    (rounded : roundUnits num den = units) (lt : units < limit) :
    ∃ isMagnitude, ofUnits negative num den = .finite negative units isMagnitude := by
  subst rounded
  exact ⟨⟨lt, dvd_roundUnits num den⟩, dif_pos lt⟩

theorem dvd_mul_unitsPerOne {value : Nat} (lt : value < Nat.pow 2 53) :
    Nat.pow 2 ((value * unitsPerOne).log2 - 52) ∣ value * unitsPerOne := by
  unfold unitsPerOne
  apply dvd_mul_two_pow lt

theorem mul_unitsPerOne_lt_limit {value : Nat} (lt : value < Nat.pow 2 64) :
    value * unitsPerOne < limit :=
  Nat.lt_of_lt_of_le (Nat.mul_lt_mul_of_pos_right lt unitsPerOne_pos) le_limit

theorem ofNat_eq_ofUnits (value : Nat) :
    ofNat value = ofUnits false (value * unitsPerOne) 1 := by
  rw [ofNat, ofRatio]

theorem finite_mul_finite {negative other : Bool} {units otherUnits : Nat}
    {isMagnitude : IsMagnitude units} {otherIsMagnitude : IsMagnitude otherUnits} :
    finite negative units isMagnitude * finite other otherUnits otherIsMagnitude =
      ofUnits (negative ^^ other) (units * otherUnits) unitsPerOne := by
  show mul _ _ = _
  rw [mul]

/-- A whole number below `2 ^ 53` is exact. -/
theorem ofNat_eq_finite {value : Nat} (lt : value < Nat.pow 2 53) :
    ∃ isMagnitude, ofNat value = .finite false (value * unitsPerOne) isMagnitude := by
  have rounded : roundUnits (value * unitsPerOne) 1 = value * unitsPerOne :=
    roundUnits_of_dvd (dvd_mul_unitsPerOne lt)
  have inRange : value * unitsPerOne < limit :=
    mul_unitsPerOne_lt_limit (Nat.lt_trans lt (by decide))
  rw [ofNat_eq_ofUnits]
  exact exists_finite_of_roundUnits rounded inRange

/-- A whole number of 64 bits is rounded to a finite one. -/
theorem isFinite_ofRatio_one (negative : Bool) {value : Nat} (lt : value < Nat.pow 2 64) :
    (ofRatio negative value 1).isFinite = true := by
  have doubled : roundUnits (value * unitsPerOne) 1 ≤ 2 * (value * unitsPerOne) := by
    rw [roundUnits, Nat.one_mul]
    exact roundHalfEven_mul_le _ _
  have inRange : 2 * (value * unitsPerOne) < limit := by
    have half : 2 * (Nat.pow 2 64 * unitsPerOne) ≤ limit := by decide +kernel
    refine Nat.lt_of_lt_of_le ?_ half
    exact Nat.mul_lt_mul_of_pos_left (Nat.mul_lt_mul_of_pos_right lt unitsPerOne_pos) Nat.two_pos
  obtain ⟨isMagnitude, finite⟩ :=
    exists_finite_of_roundUnits rfl (Nat.lt_of_le_of_lt doubled inRange)
  rw [ofRatio, finite]
  rfl

/-- The product with a whole number is rounded once. -/
theorem roundUnits_mul_whole (units whole : Nat) :
    roundUnits (units * (whole * unitsPerOne)) unitsPerOne = roundUnits (units * whole) 1 := by
  rw [← Nat.mul_assoc]
  simpa using roundUnits_mul_right (units * whole) 1 unitsPerOne_pos

/-- The product of whole numbers is the number nearest to their product. -/
theorem ofNat_mul_ofNat {first second : Nat} (firstLt : first < Nat.pow 2 53)
    (secondLt : second < Nat.pow 2 53) :
    ofNat first * ofNat second = ofNat (first * second) := by
  obtain ⟨_, firstEq⟩ := ofNat_eq_finite firstLt
  obtain ⟨_, secondEq⟩ := ofNat_eq_finite secondLt
  rw [firstEq, secondEq, finite_mul_finite, ofNat_eq_ofUnits]
  apply ofUnits_congr
  rw [roundUnits_mul_whole, Nat.mul_right_comm]

/-- The product of a number with all its significant bits and a whole number is near to what it
stands for. -/
theorem exists_finite_mul_ofNat {units whole : Nat} {isMagnitude : IsMagnitude units}
    (lt : whole < Nat.pow 2 53) (large : Nat.pow 2 52 ≤ units * whole)
    (inRange : units * whole ≤ Nat.pow 2 62 * unitsPerOne) :
    ∃ rounded roundedIsMagnitude,
      .finite false units isMagnitude * ofNat whole = .finite false rounded roundedIsMagnitude ∧
      IsNear (units * whole) rounded := by
  obtain ⟨_, wholeEq⟩ := ofNat_eq_finite lt
  have scaled : Nat.pow 2 52 * 1 ≤ units * whole :=
    Nat.le_trans (Nat.le_of_eq (Nat.mul_one _)) large
  have near := roundUnits_near Nat.one_pos scaled
  rw [Nat.mul_one] at near
  have roundedLt : roundUnits (units * whole) 1 < limit := by
    calc roundUnits (units * whole) 1
        ≤ 2 * (units * whole) := near.le_two_mul
      _ ≤ 2 * (Nat.pow 2 62 * unitsPerOne) := Nat.mul_le_mul_left 2 inRange
      _ = Nat.pow 2 63 * unitsPerOne := by
          rw [← Nat.mul_assoc, (by decide : 2 * Nat.pow 2 62 = Nat.pow 2 63)]
      _ < limit := mul_unitsPerOne_lt_limit (by decide)
  obtain ⟨roundedIsMagnitude, eq⟩ :=
    exists_finite_of_roundUnits (roundUnits_mul_whole units whole) roundedLt
  refine ⟨_, roundedIsMagnitude, ?_, near⟩
  rw [wholeEq, finite_mul_finite]
  exact eq

theorem mul_comm (first second : Binary64) : first * second = second * first := by
  cases first with
  | nan => cases second <;> rfl
  | infinity negative =>
      cases second with
      | nan => rfl
      | infinity => exact congrArg infinity (Bool.xor_comm ..)
      | finite => rfl
  | finite negative units isMagnitude =>
      cases second with
      | nan => rfl
      | infinity => rfl
      | finite => rw [finite_mul_finite, finite_mul_finite, Nat.mul_comm, Bool.xor_comm]

/-! ### Decimals -/

theorem ofDecimal_negSucc {places : Nat} (few : places < 400) :
    ofDecimal false 1 (.negSucc places) =
      ofUnits false unitsPerOne (Nat.pow 10 (places + 1)) := by
  rw [ofDecimal, if_neg (by simp; omega), ofRatio, Nat.one_mul]

/-- The number nearest to a negative power of ten is near to it. -/
theorem exists_finite_ofDecimal {places : Nat} (few : places < 400)
    (large : Nat.pow 2 52 * Nat.pow 10 (places + 1) ≤ unitsPerOne) :
    ∃ units isMagnitude, ofDecimal false 1 (.negSucc places) = .finite false units isMagnitude ∧
      IsNear unitsPerOne (units * Nat.pow 10 (places + 1)) := by
  have positive : 0 < Nat.pow 10 (places + 1) := Nat.pow_pos (by decide)
  have near := roundUnits_near positive large
  have inRange : roundUnits unitsPerOne (Nat.pow 10 (places + 1)) < limit := by
    calc roundUnits unitsPerOne (Nat.pow 10 (places + 1))
        ≤ roundUnits unitsPerOne (Nat.pow 10 (places + 1)) * Nat.pow 10 (places + 1) :=
          Nat.le_mul_of_pos_right _ positive
      _ ≤ 2 * unitsPerOne := near.le_two_mul
      _ < limit := mul_unitsPerOne_lt_limit (by decide)
  obtain ⟨isMagnitude, eq⟩ := exists_finite_of_roundUnits rfl inRange
  exact ⟨_, isMagnitude, (ofDecimal_negSucc few).trans eq, near⟩

/-- Digits without an exponent stand for the nearest number. -/
theorem ofDecimal_zero (digits : Nat) : ofDecimal false digits 0 = ofNat digits := by
  by_cases zero : digits = 0
  · rw [zero]
    decide +kernel
  · show (if digits = 0 then _ else _) = _
    rw [if_neg zero, if_neg (by decide)]
    simp [ofNat]

end PodSizing.Binary64
