import PodSizing.Proofs.Quantity.Grammar
import PodSizing.Quantity.Writer

/-!
# Reading written quantities

A written quantity is the digits of a whole number and a suffix of letters.  Reading gives back the
amount: memory exactly, below `2 ^ 53` bytes, and CPU up to 10 ^ 9 millicores within the part of a
millicore that rounding up leaves out of account.
-/

namespace PodSizing

namespace Quantity

open Binary64 (unitsPerOne IsNear)

/-- Digits with a suffix of letters are split into the two. -/
theorem split_digits_append {digits : List Char} {suffix : String}
    (isDigits : Numeral.IsDigits digits) (letters : suffix.toList.all Char.isAlpha = true)
    (lt : Numeral.digitsValue digits < Nat.pow 2 53) :
    split (String.ofList digits ++ suffix) = .ok (.ofNat (Numeral.digitsValue digits), suffix) := by
  let spelling : Spelling (String.ofList digits ++ suffix) :=
    { before := []
      mantissa := digits
      exponent := []
      suffix := suffix.toList
      after := []
      numeral := ⟨digits, [], 0⟩
      text_eq := by simp
      before_blank := by simp
      isMantissa := .whole isDigits
      isExponent := .absent
      letters := List.all_eq_true.mp letters
      after_blank := by simp }
  have number : spelling.number = .ofNat (Numeral.digitsValue digits) :=
    Numeral.toBinary64_digits digits
  have finite := Binary64.isFinite_ofNat (Nat.lt_trans lt (by decide : _ < Nat.pow 2 64))
  have suffix_eq : spelling.suffixText = suffix := String.ofList_toList
  rw [spelling.split_eq, number, if_pos finite, suffix_eq]

/-- The digits of a number with zeros before them. -/
def paddedText (zeros value : Nat) : String :=
  String.ofList (List.replicate zeros '0') ++ toString value

/-- A whole number with zeros before it and a suffix of letters after it is split into the two. -/
theorem split_paddedText_append (zeros : Nat) {value : Nat} {suffix : String}
    (letters : suffix.toList.all Char.isAlpha = true) (lt : value < Nat.pow 2 53) :
    split (paddedText zeros value ++ suffix) = .ok (.ofNat value, suffix) := by
  let digits := List.replicate zeros '0' ++ Nat.toDigits 10 value
  have written : paddedText zeros value = String.ofList digits := by
    rw [paddedText, Nat.toString_eq_repr, ← String.ofList_toList (s := value.repr),
      Nat.toList_repr, ← String.ofList_append]
  have isDigits : Numeral.IsDigits digits := by
    refine ⟨by simp [digits, Nat.toDigits_ne_nil], fun c mem => ?_⟩
    rcases List.mem_append.mp mem with zero | digit
    · rw [List.eq_of_mem_replicate zero]
      decide
    · exact Nat.isDigit_of_mem_toDigits (by decide) (by decide) digit
  have value_eq : Numeral.digitsValue digits = value := by
    rw [Numeral.digitsValue_zeros, Numeral.digitsValue_toDigits]
  rw [written, split_digits_append isDigits letters (by rwa [value_eq]), value_eq]

/-- A whole number with a suffix of letters is split into the two. -/
theorem split_toString_append {value : Nat} {suffix : String}
    (letters : suffix.toList.all Char.isAlpha = true) (lt : value < Nat.pow 2 53) :
    split (toString value ++ suffix) = .ok (.ofNat value, suffix) := by
  have read := split_paddedText_append 0 letters lt
  rwa [paddedText, List.replicate_zero, String.ofList_nil, String.empty_append] at read

/-! ### Whole amounts -/

/-- Half a millionth is within the tolerance, and one and a half is not. -/
theorem exists_tolerance : ∃ tolerance isMagnitude,
    Binary64.ofDecimal false 1 (-6) = .finite false tolerance isMagnitude ∧
      unitsPerOne ≤ 2000000 * tolerance ∧ 2000000 * tolerance < 3 * unitsPerOne := by
  obtain ⟨tolerance, isMagnitude, eq, above, below⟩ :=
    Binary64.exists_finite_ofDecimal (by decide : 5 < 400) (by decide +kernel)
  rw [show (-6 : Int) = .negSucc 5 from rfl]
  refine ⟨tolerance, isMagnitude, eq, ?_⟩
  have positive := Binary64.unitsPerOne_pos
  generalize unitsPerOne = one at above below positive ⊢
  simp only [Nat.pow_eq] at above below
  omega

/-- What is less than half a millionth away from a whole number counts as that number. -/
theorem ceilUnits_of_near {units amount : Nat}
    (above : 2000000 * units < 2000000 * (amount * unitsPerOne) + unitsPerOne)
    (below : 2000000 * (amount * unitsPerOne) < 2000000 * units + unitsPerOne) :
    ceilUnits units = amount := by
  obtain ⟨tolerance, isMagnitude, eq, large, -⟩ := exists_tolerance
  have nearest : Binary64.nearestWhole units = amount := by
    apply Binary64.nearestWhole_eq <;> omega
  have near : (if units ≤ amount * unitsPerOne then amount * unitsPerOne - units
      else units - amount * unitsPerOne) < tolerance := by
    generalize amount * unitsPerOne = whole at above below ⊢
    generalize unitsPerOne = one at above below large
    split <;> omega
  unfold ceilUnits
  rw [nearest, eq]
  exact if_pos near

/-- What is above a whole number and not above the next one counts as the next one, unless it is
less than one and a half millionths above the first. -/
theorem ceilUnits_of_between {units amount : Nat} (above : amount * unitsPerOne < units)
    (below : units ≤ (amount + 1) * unitsPerOne) :
    ceilUnits units = amount + 1 ∨ (ceilUnits units = amount ∧
      2000000 * units < 2000000 * (amount * unitsPerOne) + 3 * unitsPerOne) := by
  obtain ⟨tolerance, isMagnitude, eq, -, small⟩ := exists_tolerance
  have positive := Binary64.unitsPerOne_pos
  rw [Nat.add_mul, Nat.one_mul] at below
  have next : (units + unitsPerOne - 1) / unitsPerOne = amount + 1 := by
    apply Nat.div_eq_of_lt_le <;> rw [Nat.add_mul, Nat.one_mul]
    · omega
    · rw [Nat.add_mul, Nat.one_mul]
      omega
  unfold ceilUnits
  rw [eq, next]
  by_cases up : 2 * (amount * unitsPerOne) + unitsPerOne ≤ 2 * units
  · have nearest : Binary64.nearestWhole units = amount + 1 := by
      apply Binary64.nearestWhole_eq <;> rw [Nat.add_mul, Nat.one_mul] <;> omega
    rw [nearest]
    exact .inl (ite_self _)
  · have nearest : Binary64.nearestWhole units = amount := by
      apply Binary64.nearestWhole_eq <;> omega
    simp only [nearest, if_neg (Nat.not_le_of_lt above)]
    split
    case isTrue near => exact .inr ⟨rfl, by omega⟩
    case isFalse => exact .inl rfl

/-- An exact whole amount is its own ceiling. -/
theorem ceilWhole?_ofNat {amount : Nat} (lt : amount < Nat.pow 2 53) :
    ceilWhole? (.ofNat amount) = some amount := by
  obtain ⟨isMagnitude, eq⟩ := Binary64.ofNat_eq_finite lt
  have inRange : amount * unitsPerOne < Nat.pow 2 64 * unitsPerOne :=
    Nat.mul_lt_mul_of_pos_right (Nat.lt_trans lt (by decide)) Binary64.unitsPerOne_pos
  have near : 2000000 * (amount * unitsPerOne) < 2000000 * (amount * unitsPerOne) + unitsPerOne :=
    Nat.lt_add_of_pos_right Binary64.unitsPerOne_pos
  rw [eq, ceilWhole?, if_neg (by simp), if_pos inRange, ceilUnits_of_near near near]

/-! ### Memory -/

theorem bytes_of_split {text : String} {number : Binary64} {suffix : String} {factor : Nat}
    (read : split text = .ok (number, suffix)) (known : memoryFactor? suffix = some factor) :
    bytes text = .ok (number * .ofNat factor) := by
  simp [bytes, read, known, bind, Except.bind, pure, Except.pure]

theorem wholeBytes_of_bytes {text : String} {number : Binary64} {amount : Nat}
    (read : bytes text = .ok number) (whole : ceilWhole? number = some amount) :
    wholeBytes text = .ok amount := by
  simp [wholeBytes, read, whole, bind, Except.bind, pure, Except.pure]

/-- A whole number of a unit of memory is read exactly. -/
theorem wholeBytes_of_split {text suffix : String} {value factor : Nat}
    (read : split text = .ok (.ofNat value, suffix)) (known : memoryFactor? suffix = some factor)
    (bounds : 0 < factor ∧ factor < Nat.pow 2 64) (lt : value * factor < Nat.pow 2 53) :
    wholeBytes text = .ok (value * factor) := by
  obtain ⟨positive, factorLt⟩ := bounds
  have product : .ofNat value * .ofNat factor = Binary64.ofNat (value * factor) := by
    rcases Nat.eq_zero_or_pos value with rfl | valuePos
    · rw [Nat.zero_mul]
      exact Binary64.ofNat_zero_mul (Binary64.isFinite_ofNat factorLt)
        (Binary64.zero_lt_ofNat positive)
    · exact Binary64.ofNat_mul_ofNat
        (Nat.lt_of_le_of_lt (Nat.le_mul_of_pos_right value positive) lt)
        (Nat.lt_of_le_of_lt (Nat.le_mul_of_pos_left factor valuePos) lt)
  apply wholeBytes_of_bytes (bytes_of_split read known)
  rw [product]
  exact ceilWhole?_ofNat lt

/-- A written multiple of a unit is read exactly. -/
private theorem wholeBytes_of_mod_eq_zero {amount factor : Nat} {suffix : String}
    (multiple : amount % factor = 0) (letters : suffix.toList.all Char.isAlpha = true)
    (known : memoryFactor? suffix = some factor) (bounds : 0 < factor ∧ factor < Nat.pow 2 64)
    (lt : amount < Nat.pow 2 53) :
    wholeBytes (toString (amount / factor) ++ suffix) = .ok amount := by
  have whole : amount / factor * factor = amount :=
    Nat.div_mul_cancel (Nat.dvd_of_mod_eq_zero multiple)
  have valueLt : amount / factor < Nat.pow 2 53 := Nat.lt_of_le_of_lt (Nat.div_le_self ..) lt
  have read := wholeBytes_of_split (split_toString_append letters valueLt) known bounds
    (whole.symm ▸ lt)
  rwa [whole] at read

/-- An amount of memory is read as it was written. -/
theorem wholeBytes_memoryText {amount : Nat} (lt : amount < Nat.pow 2 53) :
    wholeBytes (memoryText amount) = .ok amount := by
  have plain : wholeBytes (toString (amount / 1) ++ "") = .ok amount :=
    wholeBytes_of_mod_eq_zero (Nat.mod_one amount) (by decide) rfl (by decide) lt
  rw [Nat.div_one, String.append_empty] at plain
  unfold memoryText
  split
  case isTrue zero =>
    subst zero
    exact plain
  case isFalse =>
    split
    case isTrue multiple =>
      exact wholeBytes_of_mod_eq_zero multiple (by decide) rfl (by decide) lt
    case isFalse =>
      split
      case isTrue multiple =>
        exact wholeBytes_of_mod_eq_zero multiple (by decide) rfl (by decide) lt
      case isFalse =>
        split
        case isTrue multiple =>
          exact wholeBytes_of_mod_eq_zero multiple (by decide) rfl (by decide) lt
        case isFalse => exact plain

/-! ### CPU -/

theorem cores_of_split {text : String} {number : Binary64} {suffix : String} {places : Nat}
    (read : split text = .ok (number, suffix)) (known : cpuPlaces? suffix = some places) :
    cores text = .ok (if places = 0 then number else number * decimalFraction places) := by
  cases places <;> simp [cores, read, known, bind, Except.bind, pure, Except.pure]

/-- A thousandth is taken back exactly. -/
theorem coresIn_three (cores : Binary64) : coresIn 3 cores = cores * .ofNat 1000 := by
  have reciprocal : .ofNat 1 / decimalFraction 3 = Binary64.ofNat 1000 := by decide +kernel
  rw [coresIn, reciprocal]

theorem millicores_of_cores {text : String} {number : Binary64} {amount : Nat}
    (read : cores text = .ok number) (whole : ceilWhole? (number * .ofNat 1000) = some amount) :
    millicores text = .ok amount := by
  simp [millicores, read, coresIn_three, whole, bind, Except.bind, pure, Except.pure]

/-- Whole cores are read exactly. -/
theorem millicores_of_split {text : String} {value : Nat}
    (read : split text = .ok (.ofNat value, "")) (lt : value * 1000 < Nat.pow 2 53) :
    millicores text = .ok (value * 1000) := by
  have valueLt : value < Nat.pow 2 53 :=
    Nat.lt_of_le_of_lt (Nat.le_mul_of_pos_right value (by decide)) lt
  apply millicores_of_cores (cores_of_split read rfl)
  rw [if_pos rfl, Binary64.ofNat_mul_ofNat valueLt (by decide)]
  exact ceilWhole?_ofNat lt

/-! ### Fractions of a core -/

/-! A fraction of a core is a whole number times a negative power of ten: `10 ^ (-3)` for a
millicore and `10 ^ (-(extra + 3))` for a smaller part.  The power is rounded, the product with it
is rounded, and so is the product of that with a thousand. -/

/-- The negative power in units, and how near the number is to it. -/
private theorem exists_decimalFraction {extra : Nat} (few : extra ≤ 6) :
    ∃ fraction isMagnitude, decimalFraction (extra + 3) = .finite false fraction isMagnitude ∧
      IsNear unitsPerOne (fraction * (1000 * Nat.pow 10 extra)) := by
  have power : Nat.pow 10 (extra + 2 + 1) = 1000 * Nat.pow 10 extra :=
    (Nat.pow_add 10 extra 3).trans (Nat.mul_comm ..)
  have large : Nat.pow 2 52 * Nat.pow 10 (extra + 2 + 1) ≤ unitsPerOne := by
    have powerLe : Nat.pow 10 (extra + 2 + 1) ≤ Nat.pow 10 9 :=
      Nat.pow_le_pow_right (by decide) (by omega)
    exact Nat.le_trans (Nat.mul_le_mul_left _ powerLe) (by decide +kernel)
  rw [decimalFraction, show (-((extra + 3 : Nat) : Int)) = .negSucc (extra + 2) from rfl, ← power]
  exact Binary64.exists_finite_ofDecimal (by omega) large

/-- The product with the fraction has all its significant bits, and there is room above it. -/
private theorem product_in_range {extra fraction value : Nat} (few : extra ≤ 6)
    (near : IsNear unitsPerOne (fraction * (1000 * Nat.pow 10 extra))) (positive : 0 < value)
    (lt : value < Nat.pow 2 53) :
    Nat.pow 2 52 ≤ fraction * value ∧ fraction * value * 1000 ≤ Nat.pow 2 54 * unitsPerOne := by
  have powerLe : Nat.pow 10 extra ≤ Nat.pow 10 6 := Nat.pow_le_pow_right (by decide) few
  constructor
  · have fractionGe : Nat.pow 2 52 ≤ fraction := by
      have scaled : fraction * (1000 * Nat.pow 10 extra) ≤ fraction * Nat.pow 10 9 :=
        Nat.mul_le_mul_left fraction (Nat.mul_le_mul_left 1000 powerLe)
      have oneGe : Nat.pow 2 90 ≤ unitsPerOne := by decide +kernel
      have oneLe := Nat.le_trans oneGe near.le_of_two_mul
      simp only [Nat.pow_eq] at *
      omega
    exact Nat.le_trans fractionGe (Nat.le_mul_of_pos_right fraction positive)
  · have powerPos : 0 < Nat.pow 10 extra := Nat.pow_pos (by decide)
    calc fraction * value * 1000
        = fraction * 1000 * value := Nat.mul_right_comm ..
      _ ≤ fraction * (1000 * Nat.pow 10 extra) * Nat.pow 2 53 :=
          Nat.mul_le_mul (Nat.mul_le_mul_left fraction (Nat.le_mul_of_pos_right 1000 powerPos))
            (Nat.le_of_lt lt)
      _ ≤ 2 * unitsPerOne * Nat.pow 2 53 := Nat.mul_le_mul_right _ near.le_two_mul
      _ = Nat.pow 2 54 * unitsPerOne := by
          rw [Nat.mul_right_comm, (by decide : 2 * Nat.pow 2 53 = Nat.pow 2 54)]

section Roundings

variable {one scale whole product first second : Nat}

private theorem le_of_thousand_le (le : product * 1000 ≤ Nat.pow 2 54 * one) :
    product ≤ Nat.pow 2 62 * one := by
  simp only [Nat.pow_eq] at *
  omega

private theorem first_in_range (ge : Nat.pow 2 52 ≤ product)
    (le : product * 1000 ≤ Nat.pow 2 54 * one) (near : IsNear product first) :
    Nat.pow 2 52 ≤ first * 1000 ∧ first * 1000 ≤ Nat.pow 2 62 * one := by
  have half := near.le_of_two_mul
  have double := near.le_two_mul
  simp only [Nat.pow_eq] at *
  omega

/-- Three roundings move an amount up to 10 ^ 9 by less than half a millionth. -/
private theorem three_roundings (positive : 0 < scale) (le : whole ≤ Nat.pow 10 9 * scale)
    (productNear : IsNear whole product) (firstNear : IsNear product first)
    (secondNear : IsNear first second) :
    second < Nat.pow 2 64 * scale ∧
      2000000 * second < 2000000 * whole + scale ∧ 2000000 * whole < 2000000 * second + scale := by
  obtain ⟨productAbove, productBelow⟩ := productNear
  obtain ⟨firstAbove, firstBelow⟩ := firstNear
  obtain ⟨secondAbove, secondBelow⟩ := secondNear
  simp only [Nat.pow_eq] at *
  omega

end Roundings

/-- Up to 10 ^ 9 millicores the amount comes back, up to an error that rounding up leaves out of
account. -/
theorem exists_units_of_fraction {extra value : Nat} (few : extra ≤ 6) (positive : 0 < value)
    (le : value ≤ Nat.pow 10 9 * Nat.pow 10 extra) :
    ∃ units, ceilWhole? (.ofNat value * decimalFraction (extra + 3) * .ofNat 1000) =
        some (ceilUnits units) ∧
      2000000 * (units * Nat.pow 10 extra) <
        2000000 * (value * unitsPerOne) + Nat.pow 10 extra * unitsPerOne ∧
      2000000 * (value * unitsPerOne) <
        2000000 * (units * Nat.pow 10 extra) + Nat.pow 10 extra * unitsPerOne := by
  have powerPos : 0 < Nat.pow 10 extra := Nat.pow_pos (by decide)
  have lt : value < Nat.pow 2 53 := by
    have powerLe : Nat.pow 10 extra ≤ Nat.pow 10 6 := Nat.pow_le_pow_right (by decide) few
    exact Nat.lt_of_le_of_lt le (Nat.lt_of_le_of_lt (Nat.mul_le_mul_left _ powerLe) (by decide))
  obtain ⟨fraction, _, fractionEq, fractionNear⟩ := exists_decimalFraction few
  -- Each of the two products must have all its significant bits for its rounding to be small.
  obtain ⟨productGe, productLe⟩ := product_in_range few fractionNear positive lt
  obtain ⟨first, _, firstEq, firstNear⟩ :=
    Binary64.exists_finite_mul_ofNat lt productGe (le_of_thousand_le productLe)
  obtain ⟨firstGe, firstLe⟩ := first_in_range productGe productLe firstNear
  obtain ⟨second, _, secondEq, secondNear⟩ :=
    Binary64.exists_finite_mul_ofNat (by decide : 1000 < Nat.pow 2 53) firstGe firstLe
  have productNear := fractionNear.mul_right value
  rw [Nat.mul_comm unitsPerOne, Nat.mul_right_comm] at productNear
  have scaledNear := secondNear.mul_right (Nat.pow 10 extra)
  rw [Nat.mul_assoc] at scaledNear
  have wholeLe := Nat.mul_le_mul_right unitsPerOne le
  rw [Nat.mul_assoc] at wholeLe
  obtain ⟨secondLt, near⟩ :=
    three_roundings (Nat.mul_pos powerPos Binary64.unitsPerOne_pos) wholeLe productNear
      (firstNear.mul_right _) scaledNear
  rw [Nat.mul_left_comm, Nat.mul_comm second] at secondLt
  have inRange := Nat.lt_of_mul_lt_mul_left secondLt
  refine ⟨second, ?_, near⟩
  rw [fractionEq, Binary64.mul_comm (.ofNat value), firstEq, secondEq, ceilWhole?,
    if_neg (by simp), if_pos inRange]

/-- The number of thousandths comes back. -/
private theorem ceilWhole?_thousandths {amount : Nat} (positive : 0 < amount)
    (le : amount ≤ Nat.pow 10 9) :
    ceilWhole? (.ofNat amount * decimalFraction 3 * .ofNat 1000) = some amount := by
  obtain ⟨units, whole, above, below⟩ :=
    exists_units_of_fraction (Nat.zero_le 6) positive (Nat.le_trans le (by decide))
  rw [whole]
  simp only [Nat.pow_eq, Nat.pow_zero, Nat.mul_one, Nat.one_mul] at above below
  rw [ceilUnits_of_near above below]

/-- An amount of CPU up to a million cores is read as it was written. -/
theorem millicores_cpuText {amount : Nat} (le : amount ≤ Nat.pow 10 9) :
    millicores (cpuText amount) = .ok amount := by
  have lt : amount < Nat.pow 2 53 := Nat.lt_of_le_of_lt le (by decide)
  unfold cpuText
  split
  case isTrue multiple =>
    have whole : amount / 1000 * 1000 = amount :=
      Nat.div_mul_cancel (Nat.dvd_of_mod_eq_zero multiple)
    have valueLt : amount / 1000 < Nat.pow 2 53 := Nat.lt_of_le_of_lt (Nat.div_le_self ..) lt
    have read := millicores_of_split (split_toString_append (by decide) valueLt) (whole.symm ▸ lt)
    rwa [String.append_empty, whole] at read
  case isFalse fractional =>
    have positive : 0 < amount := by
      apply Nat.pos_of_ne_zero
      rintro rfl
      exact fractional rfl
    apply millicores_of_cores (cores_of_split (split_toString_append (by decide) lt) rfl)
    rw [if_neg (by decide)]
    exact ceilWhole?_thousandths positive le

end Quantity

end PodSizing
