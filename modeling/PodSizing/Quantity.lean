import PodSizing.Numeral
import PodSizing.Text.Blank

/-!
# Resource quantities

Reading the amounts of CPU and memory in resource lists.  A quantity is a numeral followed by a
suffix of letters, with blanks around it: `2`, `500m`, `1.5Gi`, `1e3`.  Amounts are computed in
binary64 numbers, a CPU amount in cores and a memory amount in bytes, and are rounded up to whole
millicores or bytes, where a value within a millionth of a whole number counts as that number.
-/

namespace PodSizing

/-- Why a quantity is refused. -/
inductive QuantityError where
  /-- The text is not a numeral with a suffix of letters. -/
  | malformed (text : String)
  | unknownSuffix (suffix : String)
  /-- The amount is too large. -/
  | outOfRange (text : String)
  deriving DecidableEq

/-- The text of a refusal. -/
def QuantityError.message : QuantityError → String
  | .malformed text => "Unable to parse the quantity: " ++ text
  | .unknownSuffix suffix => "Unknown quantity suffix '" ++ suffix ++ "'"
  | .outOfRange text => "Quantity " ++ text ++ " is out of range"

namespace Quantity

/-- The numeral and the suffix of a quantity, when the text is one. -/
def split? (text : String) : Option (Numeral × String) :=
  match Numeral.scan (Text.trim text.toList) with
  | some (numeral, suffix) =>
      if suffix.all Char.isAlpha then some (numeral, String.ofList suffix) else none
  | none => none

/-- The number and the suffix of a quantity.  The number has to be finite, whatever the suffix. -/
def split (text : String) : Except QuantityError (Binary64 × String) :=
  match split? text with
  | none => .error (.malformed text)
  | some (numeral, suffix) =>
      let number := numeral.toBinary64 false
      if number.isFinite then .ok (number, suffix) else .error (.outOfRange text)

/-! ### CPU -/

/-- The number `10 ^ (-places)`. -/
def decimalFraction (places : Nat) : Binary64 :=
  .ofDecimal false 1 (-places)

/-- The decimal places by which a CPU suffix shifts the number. -/
def cpuPlaces? : String → Option Nat
  | "" => some 0
  | "m" => some 3
  | "u" => some 6
  | "n" => some 9
  | _ => none

/-- An amount of CPU in cores. -/
def cores (text : String) : Except QuantityError Binary64 := do
  let (number, suffix) ← split text
  match cpuPlaces? suffix with
  | none => throw (.unknownSuffix suffix)
  | some 0 => pure number
  | some places => pure (number * decimalFraction places)

/-- An amount of cores in units of `10 ^ (-places)` cores.  The reciprocal of the unit is rounded
before the multiplication. -/
def coresIn (places : Nat) (cores : Binary64) : Binary64 :=
  cores * (.ofNat 1 / decimalFraction places)

/-! ### Memory -/

/-- The number of bytes that a memory suffix stands for. -/
def memoryFactor? : String → Option Nat
  | "" => some 1
  | "k" => some (Nat.pow 10 3)
  | "M" => some (Nat.pow 10 6)
  | "G" => some (Nat.pow 10 9)
  | "T" => some (Nat.pow 10 12)
  | "P" => some (Nat.pow 10 15)
  | "E" => some (Nat.pow 10 18)
  | "Ki" => some (Nat.pow 2 10)
  | "Mi" => some (Nat.pow 2 20)
  | "Gi" => some (Nat.pow 2 30)
  | "Ti" => some (Nat.pow 2 40)
  | "Pi" => some (Nat.pow 2 50)
  | "Ei" => some (Nat.pow 2 60)
  | _ => none

/-- An amount of memory in bytes. -/
def bytes (text : String) : Except QuantityError Binary64 := do
  let (number, suffix) ← split text
  match memoryFactor? suffix with
  | none => throw (.unknownSuffix suffix)
  | some factor => pure (number * .ofNat factor)

/-! ### Whole amounts -/

/-- A whole number from a count of units: the nearest one when it is closer than a millionth,
otherwise the next one above.  The distance to the nearest whole number is itself a binary64
number, so comparing it exactly loses nothing. -/
def ceilUnits (units : Nat) : Nat :=
  let nearest := Binary64.nearestWhole units
  let whole := nearest * Binary64.unitsPerOne
  let distance := if units ≤ whole then whole - units else units - whole
  match Binary64.ofDecimal false 1 (-6) with
  | .finite _ tolerance _ =>
      if distance < tolerance then nearest
      else (units + Binary64.unitsPerOne - 1) / Binary64.unitsPerOne
  | _ => nearest

/-- The whole amount for a number that is finite, not negative and below `2 ^ 64`. -/
def ceilWhole? : Binary64 → Option Nat
  | .finite negative units _ =>
      if negative && units != 0 then none
      else if units < Nat.pow 2 64 * Binary64.unitsPerOne then some (ceilUnits units)
      else none
  | _ => none

/-- A CPU quantity in millicores, rounded up. -/
def millicores (text : String) : Except QuantityError Nat := do
  match ceilWhole? (coresIn 3 (← cores text)) with
  | some amount => pure amount
  | none => throw (.outOfRange text)

/-- A memory quantity in bytes, rounded up. -/
def wholeBytes (text : String) : Except QuantityError Nat := do
  match ceilWhole? (← bytes text) with
  | some amount => pure amount
  | none => throw (.outOfRange text)

end Quantity

end PodSizing
