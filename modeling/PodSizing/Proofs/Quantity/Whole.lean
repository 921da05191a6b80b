import PodSizing.Proofs.Quantity.Answer

/-!
# Whole numbers of a unit

A whole number with a suffix stands for an exact amount.  Memory is read as this amount below
`2 ^ 53` bytes.  CPU is read as the amount rounded up to millicores, up to 10 ^ 9 of them; only a
single nanocore above a whole number of millicores may be lost, as it is just about the millionth
that rounding up leaves out of account.
-/

namespace PodSizing.Quantity

open Binary64 (unitsPerOne)

/-- The suffixes of CPU amounts with the nanocores that they stand for. -/
def cpuUnits : List (String × Nat) :=
  [("", Nat.pow 10 9), ("m", Nat.pow 10 6), ("u", Nat.pow 10 3), ("n", 1)]

/-- The nanocores of a millicore. -/
def nanocoresPerMillicore : Nat := Nat.pow 10 6

/-! ### Rounding up -/

section Parts

/-! An amount is a number of parts, `scale` of which are one.  The units are those of a number that
is less than half a millionth away from the amount. -/

variable {one units value scale : Nat}
  (above : 2000000 * (units * scale) < 2000000 * (value * one) + scale * one)
  (below : 2000000 * (value * one) < 2000000 * (units * scale) + scale * one)

private theorem parts_split (one value scale : Nat) :
    value * one = value / scale * one * scale + value % scale * one := by
  calc value * one
      = (value / scale * scale + value % scale) * one := by rw [Nat.div_add_mod']
    _ = value / scale * one * scale + value % scale * one := by
        rw [Nat.add_mul, Nat.mul_right_comm]

include below

/-- What is less than one and a half millionths above a whole number is less than two millionths
above it as an amount. -/
private theorem parts_small (positive : 0 < scale)
    (small : 2000000 * units < 2000000 * (value / scale * one) + 3 * one) :
    value % scale * 1000000 < 2 * scale := by
  have scaled := Nat.mul_lt_mul_of_pos_right small positive
  rw [Nat.add_mul, Nat.mul_assoc, Nat.mul_assoc, Nat.mul_assoc 3, Nat.mul_comm one] at scaled
  rw [parts_split one value scale] at below
  apply Nat.lt_of_mul_lt_mul_right (a := one)
  rw [Nat.mul_right_comm, Nat.mul_assoc 2]
  omega

include above

/-- Near a whole amount the number is near to it. -/
private theorem parts_near (exact : value % scale = 0) :
    2000000 * units < 2000000 * (value / scale * one) + one ∧
      2000000 * (value / scale * one) < 2000000 * units + one := by
  have split := parts_split one value scale
  rw [exact, Nat.zero_mul, Nat.add_zero] at split
  rw [split, Nat.mul_comm scale, ← Nat.mul_assoc 2000000 units,
    ← Nat.mul_assoc 2000000 (value / scale * one), ← Nat.add_mul] at above below
  exact ⟨Nat.lt_of_mul_lt_mul_right above, Nat.lt_of_mul_lt_mul_right below⟩

/-- Between two whole amounts the number does not pass them, as a part is at least a millionth. -/
private theorem parts_between (positive : 0 < scale) (le : scale ≤ Nat.pow 10 6)
    (some : 0 < value % scale) :
    value / scale * one < units ∧ units ≤ (value / scale + 1) * one := by
  have split := parts_split one value scale
  have partGe : one ≤ value % scale * one := Nat.le_mul_of_pos_left one some
  have partLe : (value % scale + 1) * one ≤ scale * one :=
    Nat.mul_le_mul_right one (Nat.mod_lt value positive)
  have scaleLe : scale * one ≤ Nat.pow 10 6 * one := Nat.mul_le_mul_right one le
  rw [Nat.add_mul, Nat.one_mul] at partLe
  rw [split] at above below
  simp only [Nat.pow_eq] at scaleLe
  constructor
  · apply Nat.lt_of_mul_lt_mul_right (a := scale)
    omega
  · apply Nat.le_of_mul_le_mul_right _ positive
    rw [Nat.add_mul, Nat.one_mul, Nat.add_mul, Nat.mul_comm one]
    omega

end Parts

/-- Parts of one are rounded up to a whole number, unless they exceed one by less than two
millionths. -/
theorem ceilUnits_of_parts {units value scale : Nat} (positive : 0 < scale)
    (le : scale ≤ Nat.pow 10 6)
    (above : 2000000 * (units * scale) < 2000000 * (value * unitsPerOne) + scale * unitsPerOne)
    (below : 2000000 * (value * unitsPerOne) < 2000000 * (units * scale) + scale * unitsPerOne) :
    ceilUnits units = (value + (scale - 1)) / scale ∨
      (0 < value % scale ∧ value % scale * 1000000 < 2 * scale ∧
        ceilUnits units = value / scale) := by
  have split := Nat.div_add_mod' value scale
  have partLt := Nat.mod_lt value positive
  rcases Nat.eq_zero_or_pos (value % scale) with exact | some
  · obtain ⟨nearAbove, nearBelow⟩ := parts_near above below exact
    left
    rw [ceilUnits_of_near nearAbove nearBelow]
    symm
    apply Nat.div_eq_of_lt_le
    · omega
    · rw [Nat.add_mul]
      omega
  · obtain ⟨unitsGt, unitsLe⟩ := parts_between above below positive le some
    rcases ceilUnits_of_between unitsGt unitsLe with next | ⟨same, small⟩
    · left
      rw [next]
      symm
      apply Nat.div_eq_of_lt_le <;> simp only [Nat.add_mul] <;> omega
    · exact .inr ⟨some, parts_small below positive small, same⟩

/-- What is rounded up does not depend on the size of the parts. -/
private theorem ceil_mul_right {value scale factor : Nat} (scalePos : 0 < scale)
    (positive : 0 < factor) :
    (value * factor + (scale * factor - 1)) / (scale * factor) = (value + (scale - 1)) / scale := by
  have inner : (value * factor + (scale * factor - 1)) / factor = value + (scale - 1) := by
    have factorLe : factor ≤ scale * factor := Nat.le_mul_of_pos_left factor scalePos
    apply Nat.div_eq_of_lt_le <;> simp only [Nat.add_mul, Nat.sub_mul] <;> omega
  rw [← inner, Nat.div_div_eq_div_mul, Nat.mul_comm factor]

/-- A whole number of parts of a millicore counts as the next whole number of millicores, unless it
exceeds a whole number by less than two millionths. -/
private theorem exists_ceilWhole?_of_parts {extra value : Nat} (few : extra ≤ 6)
    (le : value ≤ Nat.pow 10 9 * Nat.pow 10 extra) :
    ∃ amount, ceilWhole? (.ofNat value * decimalFraction (extra + 3) * .ofNat 1000) = some amount ∧
      (amount = (value + (Nat.pow 10 extra - 1)) / Nat.pow 10 extra ∨
        (0 < value % Nat.pow 10 extra ∧ value % Nat.pow 10 extra * 1000000 < 2 * Nat.pow 10 extra ∧
          amount = value / Nat.pow 10 extra)) := by
  have scaleLe : Nat.pow 10 extra ≤ Nat.pow 10 6 := Nat.pow_le_pow_right (by decide) few
  have scalePos : 0 < Nat.pow 10 extra := Nat.pow_pos (by decide)
  rcases Nat.eq_zero_or_pos value with rfl | positive
  · have zero : ∀ extra ≤ 6,
        ceilWhole? (.ofNat 0 * decimalFraction (extra + 3) * .ofNat 1000) = some 0 := by
      decide +kernel
    refine ⟨0, zero extra few, .inl ?_⟩
    rw [Nat.zero_add, Nat.div_eq_of_lt (Nat.sub_lt scalePos Nat.one_pos)]
  · obtain ⟨units, whole, above, below⟩ := exists_units_of_fraction few positive le
    exact ⟨_, whole, ceilUnits_of_parts scalePos scaleLe above below⟩

/-- A suffix for a fraction of a core is read as the next whole number of millicores, or as the one
before it when the number of nanocores exceeds that by one. -/
private theorem millicores_of_fraction (extra : Nat) {text suffix : String} {value nanocores : Nat}
    (read : split text = .ok (.ofNat value, suffix))
    (known : cpuPlaces? suffix = some (extra + 3)) (few : extra ≤ 6)
    (parts : Nat.pow 10 extra * nanocores = nanocoresPerMillicore)
    (le : value * nanocores ≤ Nat.pow 10 9 * nanocoresPerMillicore) :
    ∃ amount, millicores text = .ok amount ∧
      (amount = (value * nanocores + (nanocoresPerMillicore - 1)) / nanocoresPerMillicore ∨
        value * nanocores % nanocoresPerMillicore = 1 ∧
          amount = value * nanocores / nanocoresPerMillicore) := by
  have scalePos : 0 < Nat.pow 10 extra := Nat.pow_pos (by decide)
  have nanocoresPos : 0 < nanocores := by
    apply Nat.pos_of_ne_zero
    rintro rfl
    rw [Nat.mul_zero] at parts
    exact absurd parts (by decide)
  rw [← parts, ← Nat.mul_assoc] at le
  obtain ⟨amount, whole, outcome⟩ :=
    exists_ceilWhole?_of_parts few (Nat.le_of_mul_le_mul_right le nanocoresPos)
  have answer : millicores text = .ok amount := by
    apply millicores_of_cores (cores_of_split read known)
    rwa [if_neg (Nat.succ_ne_zero _)]
  refine ⟨amount, answer, ?_⟩
  rw [← parts, ceil_mul_right scalePos nanocoresPos, Nat.mul_mod_mul_right,
    Nat.mul_div_mul_right _ _ nanocoresPos]
  rcases outcome with next | ⟨some, small, same⟩
  · exact .inl next
  · -- Less than two millionths of a millicore, and so a single nanocore, is left.
    have single : value % Nat.pow 10 extra * nanocores < 2 := by
      apply Nat.lt_of_mul_lt_mul_right (a := Nat.pow 10 extra)
      rwa [Nat.mul_assoc, Nat.mul_comm nanocores, parts]
    have some := Nat.mul_pos some nanocoresPos
    exact .inr ⟨by omega, same⟩

/-! ### Reading -/

/-- The text of a whole number, with or without zeros before it, and a suffix is read as the exact
amount of memory below `2 ^ 53` bytes.  It is read as the exact amount of CPU, rounded up to
millicores, up to 10 ^ 9 of them; only a single nanocore above a whole number of millicores may be
lost. -/
theorem whole_quantities_are_exact (zeros value : Nat) :
    (∀ unit ∈ memoryUnits, value * unit.2 < Nat.pow 2 53 →
      wholeBytes (paddedText zeros value ++ unit.1) = .ok (value * unit.2)) ∧
    (∀ unit ∈ cpuUnits, value * unit.2 ≤ Nat.pow 10 9 * nanocoresPerMillicore →
      ∃ amount, millicores (paddedText zeros value ++ unit.1) = .ok amount ∧
        (amount = (value * unit.2 + (nanocoresPerMillicore - 1)) / nanocoresPerMillicore ∨
          value * unit.2 % nanocoresPerMillicore = 1 ∧
            amount = value * unit.2 / nanocoresPerMillicore)) := by
  constructor
  · rintro ⟨suffix, factor⟩ mem lt
    have known : memoryFactor? suffix = some factor := by
      rw [← lookup_memoryUnits]
      exact (lookup_eq_some_iff_mem (by decide)).mpr mem
    have facts : ∀ unit ∈ memoryUnits, unit.1.toList.all Char.isAlpha = true ∧
        0 < unit.2 ∧ unit.2 < Nat.pow 2 64 := by decide
    obtain ⟨letters, bounds⟩ := facts _ mem
    have valueLt := Nat.lt_of_le_of_lt (Nat.le_mul_of_pos_right value bounds.1) lt
    exact wholeBytes_of_split (split_paddedText_append zeros letters valueLt) known bounds lt
  · rintro ⟨suffix, nanocores⟩ mem le
    have read (suffix : String) (letters : suffix.toList.all Char.isAlpha = true)
        (lt : value < Nat.pow 2 53) :
        split (paddedText zeros value ++ suffix) = .ok (.ofNat value, suffix) :=
      split_paddedText_append zeros letters lt
    have valueLt (positive : 0 < nanocores) : value < Nat.pow 2 53 := by
      refine Nat.lt_of_le_of_lt (Nat.le_mul_of_pos_right value positive) ?_
      exact Nat.lt_of_le_of_lt le (by decide)
    simp only [cpuUnits, List.mem_cons, List.not_mem_nil, or_false, Prod.mk.injEq] at mem
    rcases mem with ⟨rfl, rfl⟩ | ⟨rfl, rfl⟩ | ⟨rfl, rfl⟩ | ⟨rfl, rfl⟩
    · simp only [nanocoresPerMillicore, Nat.pow_eq] at le ⊢
      have small : value * 1000 < Nat.pow 2 53 := by
        simp only [Nat.pow_eq]
        omega
      refine ⟨_, millicores_of_split (read "" (by decide) (valueLt (by decide))) small, .inl ?_⟩
      omega
    · exact millicores_of_fraction 0 (read "m" (by decide) (valueLt (by decide))) rfl
        (by decide) (by decide) le
    · exact millicores_of_fraction 3 (read "u" (by decide) (valueLt (by decide))) rfl
        (by decide) (by decide) le
    · exact millicores_of_fraction 6 (read "n" (by decide) (valueLt (by decide))) rfl
        (by decide) (by decide) le

/-- The nanocore above eight millicores is lost. -/
example : (millicores "8000001n").toOption = some 8 := by decide +kernel

theorem whole_quantities_are_exact_at_units :
    wholeBytes "00512Mi" = .ok 536870912 ∧ millicores "1500001n" = .ok 2 := by
  obtain ⟨memory, -⟩ := whole_quantities_are_exact 2 512
  obtain ⟨-, cpu⟩ := whole_quantities_are_exact 0 1500001
  obtain ⟨amount, read, exact | ⟨single, -⟩⟩ := cpu ("n", 1) (by decide) (by decide)
  · have binary : paddedText 2 512 ++ "Mi" = "00512Mi" := by decide
    have nano : paddedText 0 1500001 ++ "n" = "1500001n" := by decide
    have bytes := memory ("Mi", Nat.pow 1024 2) (by decide) (by decide)
    rw [binary] at bytes
    rw [nano, exact] at read
    exact ⟨bytes, read⟩
  · exact absurd single (by decide)

end PodSizing.Quantity
