/-!
# Binary64 numbers

A finite binary64 number is kept as a sign and a natural number of *units*, the unit being the
least positive number `2 ^ (-1074)`.  Every finite number is a whole number of units, so order is
the order of the natural numbers, and an operation is computed exactly and rounded once.

Rounding is to nearest with ties to an even significand.  `dvd_roundUnits` says that a rounded
count of units has a significand of at most 53 bits, so the only thing left to check is the
range: a magnitude that rounds to `2 ^ 1024` or more is an infinity.

Powers of numbers are written with `Nat.pow`, which means the same whatever else is imported; the
lemma `Nat.pow_eq` leads to the power of the general theory.
-/

namespace PodSizing

namespace Binary64

/-- The number of units in one. -/
def unitsPerOne : Nat := Nat.pow 2 1074

/-- The first magnitude out of range, `2 ^ 1024`, in units. -/
def limit : Nat := Nat.pow 2 2098

theorem limit_pos : 0 < limit := by
  unfold limit
  apply Nat.two_pow_pos

/-- Counts of units that are finite magnitudes: below the limit, with at most 53 significant
bits. -/
def IsMagnitude (units : Nat) : Prop :=
  units < limit ∧ Nat.pow 2 (units.log2 - 52) ∣ units

instance (units : Nat) : Decidable (IsMagnitude units) :=
  inferInstanceAs (Decidable (_ ∧ _))

/-- The whole number nearest to `num / den`; a tie goes to the even neighbour. -/
def roundHalfEven (num den : Nat) : Nat :=
  let quotient := num / den
  let remainder := num % den
  if 2 * remainder < den ∨ (2 * remainder = den ∧ quotient % 2 = 0) then quotient
  else quotient + 1

theorem roundHalfEven_le (num den : Nat) : roundHalfEven num den ≤ num / den + 1 := by
  simp only [roundHalfEven]
  split <;> omega

/-- `num / den` units, rounded to 53 significant bits. -/
def roundUnits (num den : Nat) : Nat :=
  let step := Nat.pow 2 ((num / den).log2 - 52)
  roundHalfEven num (den * step) * step

theorem roundHalfEven_step_le (num den : Nat) :
    roundHalfEven num (den * Nat.pow 2 ((num / den).log2 - 52)) ≤ Nat.pow 2 53 := by
  refine Nat.le_trans (roundHalfEven_le _ _) (Nat.succ_le_of_lt ?_)
  rw [← Nat.div_div_eq_div_mul]
  apply Nat.div_lt_of_lt_mul
  refine Nat.lt_of_lt_of_le Nat.lt_log2_self ?_
  rw [Nat.pow_eq, Nat.pow_eq, ← Nat.pow_add]
  exact Nat.pow_le_pow_right (by decide) (by omega)

/-- A multiple of a power of two by a number below `2 ^ 53` has at most 53 significant bits. -/
theorem dvd_mul_two_pow {significand : Nat} (lt : significand < Nat.pow 2 53) (shift : Nat) :
    Nat.pow 2 ((significand * Nat.pow 2 shift).log2 - 52) ∣ significand * Nat.pow 2 shift := by
  simp only [Nat.pow_eq] at lt ⊢
  by_cases zero : significand = 0
  · simp [zero]
  · have units_ne : significand * 2 ^ shift ≠ 0 :=
      Nat.mul_ne_zero zero (Nat.ne_of_gt (Nat.two_pow_pos shift))
    have units_lt : significand * 2 ^ shift < 2 ^ (53 + shift) := by
      rw [Nat.pow_add]
      exact Nat.mul_lt_mul_of_pos_right lt (Nat.two_pow_pos shift)
    have log_lt := (Nat.log2_lt units_ne).2 units_lt
    apply Nat.dvd_trans (Nat.pow_dvd_pow 2 _) (Nat.dvd_mul_left (2 ^ shift) significand)
    omega

/-- A rounded count of units has at most 53 significant bits. -/
theorem dvd_roundUnits (num den : Nat) :
    Nat.pow 2 ((roundUnits num den).log2 - 52) ∣ roundUnits num den := by
  have significand_le := roundHalfEven_step_le num den
  simp only [roundUnits]
  generalize (num / den).log2 - 52 = shift at significand_le ⊢
  generalize roundHalfEven num (den * Nat.pow 2 shift) = significand at significand_le ⊢
  rcases Nat.lt_or_eq_of_le significand_le with lt | carry
  · exact dvd_mul_two_pow lt shift
  · simp only [Nat.pow_eq] at carry ⊢
    rw [carry, ← Nat.pow_add, Nat.log2_two_pow]
    exact Nat.pow_dvd_pow 2 (by omega)

end Binary64

/-- A binary64 number.  There is a single NaN, and zero keeps its sign. -/
inductive Binary64 where
  | nan
  | infinity (negative : Bool)
  | finite (negative : Bool) (units : Nat) (isMagnitude : Binary64.IsMagnitude units)
  deriving DecidableEq

namespace Binary64

/-- Zero with a sign. -/
def zero (negative : Bool) : Binary64 :=
  .finite negative 0 ⟨limit_pos, Nat.dvd_zero _⟩

instance : Inhabited Binary64 := ⟨zero false⟩

/-- `num / den` units, rounded, with a sign. -/
def ofUnits (negative : Bool) (num den : Nat) : Binary64 :=
  if inRange : roundUnits num den < limit then
    .finite negative (roundUnits num den) ⟨inRange, dvd_roundUnits num den⟩
  else
    .infinity negative

/-- The number nearest to the quotient `num / den`. -/
def ofRatio (negative : Bool) (num den : Nat) : Binary64 :=
  ofUnits negative (num * unitsPerOne) den

/-- The number nearest to a natural number. -/
def ofNat (value : Nat) : Binary64 :=
  ofRatio false value 1

/-- The number nearest to `digits * 10 ^ exponent`.  Beyond the bounds on the exponent the
result is an infinity or zero whatever the digits, so no large power is computed. -/
def ofDecimal (negative : Bool) (digits : Nat) : Int → Binary64
  | .ofNat exponent =>
      if digits = 0 then zero negative
      else if 400 ≤ exponent then .infinity negative
      else ofRatio negative (digits * Nat.pow 10 exponent) 1
  | .negSucc exponent =>
      if digits.log2 + 400 ≤ exponent then zero negative
      else ofRatio negative digits (Nat.pow 10 (exponent + 1))

/-- Neither NaN nor an infinity. -/
def isFinite : Binary64 → Bool
  | .finite .. => true
  | _ => false

/-- The product, rounded once.  Zero times an infinity is NaN. -/
def mul : Binary64 → Binary64 → Binary64
  | .finite negative units _, .finite negative' units' _ =>
      ofUnits (negative ^^ negative') (units * units') unitsPerOne
  | .finite negative units _, .infinity negative'
  | .infinity negative', .finite negative units _ =>
      if units = 0 then .nan else .infinity (negative ^^ negative')
  | .infinity negative, .infinity negative' => .infinity (negative ^^ negative')
  | .nan, _ | _, .nan => .nan

/-- The quotient, rounded once.  Zero by zero and infinity by infinity are NaN. -/
def div : Binary64 → Binary64 → Binary64
  | .finite negative units _, .finite negative' units' _ =>
      if units' = 0 then
        if units = 0 then .nan else .infinity (negative ^^ negative')
      else
        ofRatio (negative ^^ negative') units units'
  | .finite negative _ _, .infinity negative' => zero (negative ^^ negative')
  | .infinity negative, .finite negative' _ _ => .infinity (negative ^^ negative')
  | .infinity _, .infinity _ => .nan
  | .nan, _ | _, .nan => .nan

instance : Mul Binary64 := ⟨mul⟩
instance : Div Binary64 := ⟨div⟩

/-- The place on the number line in units, with the infinities at the limit; NaN has none. -/
def position : Binary64 → Option Int
  | .nan => none
  | .infinity negative => some (if negative then -limit else limit)
  | .finite negative units _ => some (if negative then -units else units)

/-- `x` lies strictly below `y`.  No comparison holds of NaN, and the two zeros are equal. -/
def lt (x y : Binary64) : Bool :=
  match x.position, y.position with
  | some a, some b => a < b
  | _, _ => false

/-- `x` lies at or below `y`.  No comparison holds of NaN. -/
def le (x y : Binary64) : Bool :=
  match x.position, y.position with
  | some a, some b => a ≤ b
  | _, _ => false

/-- Equal to zero of either sign. -/
def isZero : Binary64 → Bool
  | .finite _ units _ => units == 0
  | _ => false

/-- The whole number nearest to a count of units; a half goes up. -/
def nearestWhole (units : Nat) : Nat :=
  (2 * units + unitsPerOne) / (2 * unitsPerOne)

/-- The whole number nearest to the value, a half going away from zero, as an unsigned number
below `bound + 1`: what lies outside is moved to the nearer end, and NaN to zero. -/
def roundToNat (bound : Nat) : Binary64 → Nat
  | .nan => 0
  | .infinity negative => if negative then 0 else bound
  | .finite negative units _ => if negative then 0 else min (nearestWhole units) bound

/-- The 64 bits of the interchange format. -/
def toBits : Binary64 → Nat
  | .nan => 0x7ff8000000000000
  | .infinity negative => signBit negative + 0x7ff0000000000000
  | .finite negative units _ =>
      let shift := units.log2 - 52
      signBit negative +
        if units < Nat.pow 2 52 then units
        else (shift + 1) * Nat.pow 2 52 + (units / Nat.pow 2 shift - Nat.pow 2 52)
where
  /-- The sign occupies the highest bit. -/
  signBit (negative : Bool) : Nat := if negative then Nat.pow 2 63 else 0

example : (ofDecimal false 15 (-1)).toBits = 0x3ff8000000000000 := by decide +kernel
example : (ofDecimal true 0 0).toBits = 0x8000000000000000 := by decide +kernel
example : (ofNat 1 / ofDecimal false 1 (-9)).toBits = 0x41cdcd64ffffffff := by decide +kernel

end Binary64

end PodSizing
