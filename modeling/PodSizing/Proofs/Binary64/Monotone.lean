import PodSizing.Proofs.Binary64.Order

/-!
# Operations that keep the order

Of two numbers without a minus sign the greater one is still at least as great when both are
multiplied by a positive number or divided by one.  A product may leave the range, so an infinity
counts as greater than every finite number here, and no operation on such numbers gives NaN.
-/

namespace PodSizing.Binary64

/-! ### Strict comparison -/

theorem lt_iff_of_position {first second : Binary64} {place other : Int}
    (here : first.position = some place) (there : second.position = some other) :
    first.lt second = true ↔ place < other := by
  rw [Binary64.lt, here, there]
  exact decide_eq_true_iff

theorem exists_position_of_lt {first second : Binary64} (lt : first.lt second = true) :
    ∃ place other, first.position = some place ∧ second.position = some other ∧
      place < other := by
  rw [Binary64.lt] at lt
  split at lt
  · exact ⟨_, _, ‹_›, ‹_›, of_decide_eq_true lt⟩
  · contradiction

theorem le_of_lt_of_lt {first second third : Binary64} (below : first.lt second = true)
    (above : second.lt third = true) : first.le third = true := by
  obtain ⟨low, middle, atLow, atMiddle, lt⟩ := exists_position_of_lt below
  obtain ⟨same, high, atSame, atHigh, gt⟩ := exists_position_of_lt above
  obtain rfl : middle = same := Option.some.inj (atMiddle.symm.trans atSame)
  exact (le_iff_of_position atLow atHigh).mpr (Int.le_of_lt (Int.lt_trans lt gt))

/-- A positive finite number is a positive count of units. -/
theorem exists_units_of_positive {number : Binary64} (finite : number.isFinite = true)
    (positive : (ofNat 0).lt number = true) :
    ∃ units isMagnitude, number = .finite false units isMagnitude ∧ 0 < units := by
  obtain ⟨_, zero_eq⟩ := ofNat_eq_finite (by decide : 0 < Nat.pow 2 53)
  cases number with
  | nan | infinity => cases finite
  | finite negative units isMagnitude =>
      rw [zero_eq, lt_iff_of_position (position_finite ..) rfl, Nat.zero_mul] at positive
      cases negative with
      | false => exact ⟨units, isMagnitude, rfl, Int.ofNat_lt.mp positive⟩
      | true =>
          rw [if_pos rfl] at positive
          omega

/-! ### Numbers without a minus sign -/

/-- Two numbers without a minus sign, neither of them NaN, the first at or below the second. -/
inductive AtMost : Binary64 → Binary64 → Prop
  | finite {units other : Nat} {isMagnitude : IsMagnitude units}
      {otherIsMagnitude : IsMagnitude other} (le : units ≤ other) :
      AtMost (.finite false units isMagnitude) (.finite false other otherIsMagnitude)
  | overflow {units : Nat} {isMagnitude : IsMagnitude units} :
      AtMost (.finite false units isMagnitude) (.infinity false)
  | infinite : AtMost (.infinity false) (.infinity false)

variable {first second : Binary64}

theorem AtMost.exists_position (atMost : AtMost first second) :
    ∃ place other, first.position = some place ∧ second.position = some other ∧
      place ≤ other := by
  cases atMost with
  | finite le => exact ⟨_, _, position_finite .., position_finite .., Int.ofNat_le.mpr le⟩
  | overflow =>
      rename_i isMagnitude
      exact ⟨_, limit, position_finite .., rfl, Int.ofNat_le.mpr (Nat.le_of_lt isMagnitude.1)⟩
  | infinite => exact ⟨limit, limit, rfl, rfl, Int.le_refl _⟩

theorem AtMost.le (atMost : AtMost first second) : first.le second = true := by
  obtain ⟨place, other, here, there, le⟩ := atMost.exists_position
  exact (le_iff_of_position here there).mpr le

/-- What lies below the first number lies below the second. -/
theorem AtMost.lt_of_lt (atMost : AtMost first second) {threshold : Binary64}
    (lt : threshold.lt first = true) : threshold.lt second = true := by
  obtain ⟨place, other, here, there, le⟩ := atMost.exists_position
  obtain ⟨bound, same, atBound, atPlace, below⟩ := exists_position_of_lt lt
  obtain rfl : place = same := Option.some.inj (here.symm.trans atPlace)
  exact (lt_iff_of_position atBound there).mpr (Int.lt_of_lt_of_le below le)

/-- What lies above the second number lies above the first. -/
theorem AtMost.lt_of_gt (atMost : AtMost first second) {threshold : Binary64}
    (gt : second.lt threshold = true) : first.lt threshold = true := by
  obtain ⟨place, other, here, there, le⟩ := atMost.exists_position
  obtain ⟨same, bound, atOther, atBound, below⟩ := exists_position_of_lt gt
  obtain rfl : other = same := Option.some.inj (there.symm.trans atOther)
  exact (lt_iff_of_position here atBound).mpr (Int.lt_of_le_of_lt le below)

/-! ### Operations -/

/-- The number has no minus sign and is not NaN. -/
def IsUnsigned (number : Binary64) : Prop := AtMost number (.infinity false)

theorem isUnsigned_ofUnits (num den : Nat) : (ofUnits false num den).IsUnsigned := by
  rw [ofUnits]
  split
  · exact .overflow
  · exact .infinite

theorem atMost_ofUnits {num other : Nat} (den : Nat) (le : num ≤ other) :
    AtMost (ofUnits false num den) (ofUnits false other den) := by
  have rounded := roundUnits_mono den le
  by_cases inRange : roundUnits other den < limit
  · rw [ofUnits, ofUnits, dif_pos inRange, dif_pos (Nat.lt_of_le_of_lt rounded inRange)]
    exact .finite rounded
  · have outOfRange : ofUnits false other den = .infinity false := by
      rw [ofUnits, dif_neg inRange]
    rw [outOfRange]
    exact isUnsigned_ofUnits num den

theorem atMost_ofNat {value other : Nat} (le : value ≤ other) :
    AtMost (ofNat value) (ofNat other) := by
  rw [ofNat_eq_ofUnits, ofNat_eq_ofUnits]
  exact atMost_ofUnits 1 (Nat.mul_le_mul_right unitsPerOne le)

theorem infinity_mul_finite {units : Nat} {isMagnitude : IsMagnitude units}
    (positive : 0 < units) :
    infinity false * finite false units isMagnitude = infinity false := by
  show mul _ _ = _
  rw [mul, if_neg (Nat.ne_of_gt positive), Bool.xor_self]

theorem finite_div_finite {units divisor : Nat} {isMagnitude : IsMagnitude units}
    {divisorIsMagnitude : IsMagnitude divisor} (positive : 0 < divisor) :
    finite false units isMagnitude / finite false divisor divisorIsMagnitude =
      ofUnits false (units * unitsPerOne) divisor := by
  show div _ _ = _
  rw [div, if_neg (Nat.ne_of_gt positive), ofRatio, Bool.xor_self]

/-- The products with a positive factor are in the same order. -/
theorem AtMost.mul (atMost : AtMost first second) {factor : Binary64}
    (finite : factor.isFinite = true) (positive : (ofNat 0).lt factor = true) :
    AtMost (first * factor) (second * factor) := by
  obtain ⟨units, _, rfl, units_pos⟩ := exists_units_of_positive finite positive
  cases atMost with
  | finite le =>
      rw [finite_mul_finite, finite_mul_finite]
      exact atMost_ofUnits unitsPerOne (Nat.mul_le_mul_right units le)
  | overflow =>
      rw [finite_mul_finite, infinity_mul_finite units_pos]
      exact isUnsigned_ofUnits ..
  | infinite =>
      rw [infinity_mul_finite units_pos]
      exact .infinite

theorem IsUnsigned.mul {number factor : Binary64} (isUnsigned : number.IsUnsigned)
    (finite : factor.isFinite = true) (positive : (ofNat 0).lt factor = true) :
    (number * factor).IsUnsigned := by
  obtain ⟨units, isMagnitude, rfl, units_pos⟩ := exists_units_of_positive finite positive
  have product := AtMost.mul isUnsigned finite positive
  rwa [infinity_mul_finite units_pos] at product

theorem ofNat_zero_mul {factor : Binary64} (finite : factor.isFinite = true)
    (positive : (ofNat 0).lt factor = true) : ofNat 0 * factor = ofNat 0 := by
  obtain ⟨units, _, rfl, -⟩ := exists_units_of_positive finite positive
  obtain ⟨_, zero⟩ := ofNat_eq_finite (by decide : 0 < Nat.pow 2 53)
  rw [zero, finite_mul_finite, ← zero, ofNat_eq_ofUnits]
  apply ofUnits_congr
  rw [Nat.zero_mul, Nat.zero_mul, roundUnits_zero unitsPerOne_pos, roundUnits_zero Nat.one_pos]

theorem isUnsigned_ofDecimal (digits : Nat) (exponent : Int) :
    (ofDecimal false digits exponent).IsUnsigned := by
  cases exponent with
  | ofNat exponent =>
      rw [ofDecimal]
      split
      · exact .overflow
      · split
        · exact .infinite
        · exact isUnsigned_ofUnits ..
  | negSucc exponent =>
      rw [ofDecimal]
      split
      · exact .overflow
      · exact isUnsigned_ofUnits ..

/-- The quotients by a positive divisor are in the same order. -/
theorem AtMost.div (atMost : AtMost first second) {divisor : Binary64}
    (finite : divisor.isFinite = true) (positive : (ofNat 0).lt divisor = true) :
    AtMost (first / divisor) (second / divisor) := by
  obtain ⟨units, _, rfl, units_pos⟩ := exists_units_of_positive finite positive
  cases atMost with
  | finite le =>
      rw [finite_div_finite units_pos, finite_div_finite units_pos]
      exact atMost_ofUnits units (Nat.mul_le_mul_right unitsPerOne le)
  | overflow =>
      rw [finite_div_finite units_pos]
      exact isUnsigned_ofUnits ..
  | infinite => exact .infinite

/-- A whole number of 64 bits is finite. -/
theorem isFinite_ofNat {value : Nat} (lt : value < Nat.pow 2 64) :
    (ofNat value).isFinite = true :=
  isFinite_ofRatio_one false lt

theorem zero_lt_ofNat {value : Nat} (positive : 0 < value) :
    (ofNat 0).lt (ofNat value) = true := by
  have zeroLtOne : (ofNat 0).lt (ofNat 1) = true := by decide +kernel
  exact (atMost_ofNat positive).lt_of_lt zeroLtOne

/-! ### Numbers that are rounded to zero -/

/-- One half. -/
def half : Binary64 := ofDecimal false 5 (-1)

theorem half_eq_finite :
    ∃ isMagnitude, half = .finite false (Nat.pow 2 1073) isMagnitude :=
  ⟨by decide +kernel, by decide +kernel⟩

/-- A number without a minus sign is rounded to zero exactly when it lies below one half. -/
theorem roundToNat_eq_zero_iff {number : Binary64} (isUnsigned : number.IsUnsigned) {bound : Nat}
    (positive : 0 < bound) : number.roundToNat bound = 0 ↔ number.lt half = true := by
  obtain ⟨_, half_eq⟩ := half_eq_finite
  have twice : unitsPerOne = 2 * Nat.pow 2 1073 := by decide +kernel
  have onePositive := unitsPerOne_pos
  cases isUnsigned with
  | @overflow units isMagnitude =>
      have whole : nearestWhole units = 0 ↔ units < Nat.pow 2 1073 := by
        rw [nearestWhole, Nat.div_eq_zero_iff]
        generalize Nat.pow 2 1073 = halfUnits at twice
        omega
      rw [roundToNat_finite, half_eq, lt_iff_of_position (position_finite ..) (position_finite ..),
        Int.ofNat_lt, ← whole]
      omega
  | infinite =>
      have beyond : ¬ limit < Nat.pow 2 1073 := by decide +kernel
      rw [half_eq, lt_iff_of_position rfl (position_finite ..), roundToNat,
        if_neg Bool.false_ne_true]
      constructor
      · rintro rfl
        exact absurd positive (Nat.lt_irrefl 0)
      · exact fun below => absurd (Int.ofNat_lt.mp below) beyond

end PodSizing.Binary64
