import PodSizing.Proofs.Binary64

/-!
# Order of binary64 numbers

Rounding keeps the order: what lies between two numbers is rounded to something between them.  So a
product with a factor of at least one does not fall below a whole number that it was made from, and
what is moved to whole numbers afterwards keeps its place as well.
-/

namespace PodSizing.Binary64

/-! ### Rounding keeps the order -/

theorem div_le_roundHalfEven (num den : Nat) : num / den ≤ roundHalfEven num den := by
  rw [roundHalfEven]
  split
  · exact Nat.le_refl _
  · exact Nat.le_succ _

theorem roundHalfEven_mono {num other : Nat} (den : Nat) (le : num ≤ other) :
    roundHalfEven num den ≤ roundHalfEven other den := by
  have quotient_le : num / den ≤ other / den := Nat.div_le_div_right le
  rcases Nat.lt_or_eq_of_le quotient_le with below | same
  · calc roundHalfEven num den
        ≤ num / den + 1 := roundHalfEven_le num den
      _ ≤ other / den := below
      _ ≤ roundHalfEven other den := div_le_roundHalfEven other den
  · -- Between the same two whole numbers the remainders decide.
    have split := Nat.div_add_mod' num den
    have otherSplit := Nat.div_add_mod' other den
    rw [same] at split
    simp only [roundHalfEven, same]
    split <;> split <;> omega

private theorem log2_mono {first second : Nat} (le : first ≤ second) :
    first.log2 ≤ second.log2 := by
  by_cases zero : first = 0
  · rw [zero]
    exact Nat.zero_le _
  · have positive : second ≠ 0 := Nat.ne_of_gt (Nat.lt_of_lt_of_le (Nat.pos_of_ne_zero zero) le)
    exact (Nat.le_log2 positive).mpr (Nat.le_trans (Nat.log2_self_le zero) le)

/-- A quotient whose last significant bit stands for more than one unit has all 53 bits. -/
private theorem two_pow_le_roundHalfEven {num den : Nat} (coarse : 52 < (num / den).log2) :
    Nat.pow 2 52 ≤ roundHalfEven num (den * Nat.pow 2 ((num / den).log2 - 52)) := by
  have quotient_ne : num / den ≠ 0 := by
    intro zero
    simp [zero] at coarse
  refine Nat.le_trans ?_ (div_le_roundHalfEven _ _)
  simp only [Nat.pow_eq]
  rw [← Nat.div_div_eq_div_mul, Nat.le_div_iff_mul_le (Nat.two_pow_pos _)]
  calc 2 ^ 52 * 2 ^ ((num / den).log2 - 52)
      = 2 ^ (num / den).log2 := by rw [← Nat.pow_add, Nat.add_sub_cancel' (Nat.le_of_lt coarse)]
    _ ≤ num / den := Nat.log2_self_le quotient_ne

theorem roundUnits_mono {num other : Nat} (den : Nat) (le : num ≤ other) :
    roundUnits num den ≤ roundUnits other den := by
  have log_le := log2_mono (Nat.div_le_div_right le : num / den ≤ other / den)
  have significand_le := roundHalfEven_step_le num den
  simp only [roundUnits]
  by_cases same : (num / den).log2 - 52 = (other / den).log2 - 52
  · rw [same]
    exact Nat.mul_le_mul_right _ (roundHalfEven_mono _ le)
  · -- The steps of the greater quotient are at least twice as long.
    have coarse : 52 < (other / den).log2 := by omega
    have longer : Nat.pow 2 ((num / den).log2 - 52 + 1) ≤ Nat.pow 2 ((other / den).log2 - 52) :=
      Nat.pow_le_pow_right Nat.two_pos (by omega)
    calc roundHalfEven num (den * Nat.pow 2 ((num / den).log2 - 52)) *
          Nat.pow 2 ((num / den).log2 - 52)
        ≤ Nat.pow 2 53 * Nat.pow 2 ((num / den).log2 - 52) :=
          Nat.mul_le_mul_right _ significand_le
      _ = Nat.pow 2 52 * Nat.pow 2 ((num / den).log2 - 52 + 1) := by
          simp only [Nat.pow_eq, ← Nat.pow_add]
          rw [Nat.add_comm _ 1, ← Nat.add_assoc]
      _ ≤ Nat.pow 2 52 * Nat.pow 2 ((other / den).log2 - 52) := Nat.mul_le_mul_left _ longer
      _ ≤ _ := Nat.mul_le_mul_right _ (two_pow_le_roundHalfEven coarse)

/-- What lies at or above a number with at most 53 significant bits is not rounded below it. -/
theorem le_roundUnits_of_dvd {units num : Nat} (dvd : Nat.pow 2 (units.log2 - 52) ∣ units)
    (le : units ≤ num) : units ≤ roundUnits num 1 := by
  rw [← roundUnits_of_dvd dvd]
  exact roundUnits_mono 1 le

/-! ### Numbers in order -/

/-- Numbers are compared by their places on the number line. -/
theorem le_iff_of_position {first second : Binary64} {place other : Int}
    (here : first.position = some place) (there : second.position = some other) :
    first.le second = true ↔ place ≤ other := by
  rw [Binary64.le, here, there]
  exact decide_eq_true_iff

theorem exists_position_of_le {first second : Binary64} (le : first.le second = true) :
    ∃ place other, first.position = some place ∧ second.position = some other ∧
      place ≤ other := by
  rw [Binary64.le] at le
  split at le
  · exact ⟨_, _, ‹_›, ‹_›, of_decide_eq_true le⟩
  · contradiction

theorem position_finite (units : Nat) (isMagnitude : IsMagnitude units) :
    (finite false units isMagnitude).position = some (units : Int) := rfl

/-- A number that is not negative lies at or below what was rounded to at least as many units. -/
theorem finite_le_ofUnits {units num den : Nat} {isMagnitude : IsMagnitude units}
    (le : units ≤ roundUnits num den) :
    (finite false units isMagnitude).le (ofUnits false num den) = true := by
  rw [ofUnits]
  split
  · exact (le_iff_of_position rfl (position_finite ..)).mpr (Int.ofNat_le.mpr le)
  · have there : (infinity false).position = some (limit : Int) := rfl
    exact (le_iff_of_position (position_finite ..) there).mpr
      (Int.ofNat_le.mpr (Nat.le_of_lt isMagnitude.1))

theorem units_of_one_le {units : Nat} {isMagnitude : IsMagnitude units} {negative : Bool}
    (atLeastOne : (ofNat 1).le (finite negative units isMagnitude) = true) :
    negative = false ∧ unitsPerOne ≤ units := by
  obtain ⟨_, one_eq⟩ := ofNat_eq_finite (by decide : 1 < Nat.pow 2 53)
  have one_pos := unitsPerOne_pos
  rw [one_eq, le_iff_of_position (position_finite ..) rfl, Nat.one_mul] at atLeastOne
  generalize unitsPerOne = one at one_pos atLeastOne
  cases negative with
  | false => exact ⟨rfl, Int.ofNat_le.mp atLeastOne⟩
  | true =>
      rw [if_pos rfl] at atLeastOne
      omega

/-- The product of a whole number with a finite factor of at least one is at least this number. -/
theorem ofNat_le_mul {value : Nat} {factor : Binary64} (lt : value < Nat.pow 2 53)
    (atLeastOne : (ofNat 1).le factor = true) (finite : factor.isFinite = true) :
    (ofNat value).le (ofNat value * factor) = true := by
  obtain ⟨_, value_eq⟩ := ofNat_eq_finite lt
  cases factor with
  | nan | infinity => cases finite
  | finite negative units isMagnitude =>
      obtain ⟨rfl, one_le⟩ := units_of_one_le atLeastOne
      rw [mul_comm, value_eq, finite_mul_finite]
      apply finite_le_ofUnits
      rw [roundUnits_mul_whole]
      apply le_roundUnits_of_dvd (dvd_mul_unitsPerOne lt)
      rw [Nat.mul_comm]
      exact Nat.mul_le_mul_right value one_le

/-! ### Whole numbers in order -/

theorem nearestWhole_mono {units other : Nat} (le : units ≤ other) :
    nearestWhole units ≤ nearestWhole other :=
  Nat.div_le_div_right (by omega)

/-- What is less than a half away from a whole number, or a half below it, is rounded to it. -/
theorem nearestWhole_eq {units whole : Nat}
    (above : 2 * units < 2 * (whole * unitsPerOne) + unitsPerOne)
    (below : 2 * (whole * unitsPerOne) ≤ 2 * units + unitsPerOne) : nearestWhole units = whole := by
  rw [nearestWhole]
  apply Nat.div_eq_of_lt_le
  · rwa [Nat.mul_left_comm]
  · rw [Nat.mul_left_comm, Nat.add_mul, Nat.one_mul]
    omega

theorem nearestWhole_mul_unitsPerOne (whole : Nat) : nearestWhole (whole * unitsPerOne) = whole :=
  nearestWhole_eq (Nat.lt_add_of_pos_right unitsPerOne_pos) (Nat.le_add_right ..)

theorem roundToNat_finite (bound units : Nat) (isMagnitude : IsMagnitude units) :
    (finite false units isMagnitude).roundToNat bound = min (nearestWhole units) bound := by
  rw [roundToNat, if_neg Bool.false_ne_true]

theorem roundToNat_le (bound : Nat) (number : Binary64) : number.roundToNat bound ≤ bound := by
  cases number with
  | nan => exact Nat.zero_le bound
  | infinity negative => cases negative <;> simp [roundToNat]
  | finite negative units isMagnitude =>
      cases negative with
      | false =>
          rw [roundToNat_finite]
          exact Nat.min_le_right ..
      | true => exact Nat.zero_le bound

/-- What lies at or below a finite number is rounded to no more than it. -/
private theorem roundToNat_le_of_position {number : Binary64} {place : Int} {bound units : Nat}
    {isMagnitude : IsMagnitude units} (here : number.position = some place) (le : place ≤ units) :
    number.roundToNat bound ≤ (finite false units isMagnitude).roundToNat bound := by
  cases number with
  | nan => exact Nat.zero_le _
  | infinity negative =>
      cases negative with
      | true => exact Nat.zero_le _
      | false =>
          obtain rfl : (limit : Int) = place := Option.some.inj here
          exact absurd isMagnitude.1 (Nat.not_lt.mpr (Int.ofNat_le.mp le))
  | finite negative below =>
      cases negative with
      | true => exact Nat.zero_le _
      | false =>
          obtain rfl : (below : Int) = place := Option.some.inj here
          have whole_le := nearestWhole_mono (Int.ofNat_le.mp le)
          rw [roundToNat_finite, roundToNat_finite]
          omega

/-- What lies at zero or below is rounded to zero. -/
theorem roundToNat_of_nonpos {number : Binary64} {place : Int} (bound : Nat)
    (here : number.position = some place) (nonpos : place ≤ 0) : number.roundToNat bound = 0 := by
  have whole : nearestWhole 0 = 0 := by
    simpa only [Nat.zero_mul] using nearestWhole_mul_unitsPerOne 0
  have zeroIsMagnitude : IsMagnitude 0 := ⟨limit_pos, Nat.dvd_zero _⟩
  have le_zero : number.roundToNat bound ≤ (finite false 0 zeroIsMagnitude).roundToNat bound :=
    roundToNat_le_of_position here nonpos
  rw [roundToNat_finite, whole, Nat.zero_min] at le_zero
  exact Nat.le_zero.mp le_zero

/-- A greater number is rounded to a greater whole number, or to the same. -/
theorem roundToNat_mono {first second : Binary64} (bound : Nat) (le : first.le second = true) :
    first.roundToNat bound ≤ second.roundToNat bound := by
  obtain ⟨place, other, here, there, below⟩ := exists_position_of_le le
  cases second with
  | nan => contradiction
  | infinity negative =>
      cases negative with
      | false => exact roundToNat_le bound first
      | true =>
          have isOther : -(limit : Int) = other := Option.some.inj there
          have nonpos : place ≤ 0 := Int.le_trans (isOther ▸ below)
            (Int.neg_nonpos_of_nonneg (Int.natCast_nonneg limit))
          rw [roundToNat_of_nonpos bound here nonpos]
          exact Nat.zero_le _
  | finite negative units isMagnitude =>
      cases negative with
      | false =>
          have isOther : (units : Int) = other := Option.some.inj there
          exact roundToNat_le_of_position here (isOther ▸ below)
      | true =>
          have isOther : -(units : Int) = other := Option.some.inj there
          have nonpos : place ≤ 0 := Int.le_trans (isOther ▸ below)
            (Int.neg_nonpos_of_nonneg (Int.natCast_nonneg units))
          rw [roundToNat_of_nonpos bound here nonpos]
          exact Nat.zero_le _

/-- A whole number is rounded to itself. -/
theorem roundToNat_ofNat {value bound : Nat} (lt : value < Nat.pow 2 53) (le : value ≤ bound) :
    (ofNat value).roundToNat bound = value := by
  obtain ⟨_, value_eq⟩ := ofNat_eq_finite lt
  rw [value_eq, roundToNat_finite, nearestWhole_mul_unitsPerOne, Nat.min_eq_left le]

end PodSizing.Binary64
