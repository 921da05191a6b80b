import PodSizing.Binary64

/-!
# Shortest decimal text of a binary64 number

`Binary64.shortest` gives the fewest significant digits whose decimal value rounds back to the
number, and among those the value nearest to it.  The search walks the decimal grids from coarse
to fine and stops at the first grid with a point inside the interval of reals that round to the
number.  If any point of a grid lies in the interval, one of the two neighbours of the number on
that grid does, so two candidates a grid are enough.

`Binary64.toText` writes the digits without an exponent and without a point for whole numbers.
-/

namespace PodSizing.Binary64

/-- The least and greatest real that round to a magnitude, in quarters of a unit, and whether
the two ends themselves round to it. -/
structure RoundingInterval where
  low : Nat
  high : Nat
  closed : Bool

/-- Below a power of two the numbers lie twice as close as above it. -/
def roundingInterval (units : Nat) : RoundingInterval :=
  let step := Nat.pow 2 (units.log2 - 52)
  let gapBelow := if units = Nat.pow 2 52 * step ∧ 1 < step then step else 2 * step
  { low := 4 * units - gapBelow
    high := 4 * units + 2 * step
    closed := units / step % 2 == 0 }

/-- `num / den` quarters of a unit lie in the interval. -/
def RoundingInterval.contains (interval : RoundingInterval) (num den : Nat) : Bool :=
  if interval.closed then interval.low * den ≤ num && num ≤ interval.high * den
  else interval.low * den < num && num < interval.high * den

/-- The point of the grid of multiples of `10 ^ power` that reads back as the magnitude, if
there is one: the nearer of the two neighbours, the upper one at equal distance. -/
def gridPoint? (units : Nat) (power : Int) : Option Nat :=
  let num := 4 * unitsPerOne * Nat.pow 10 power.toNat
  let den := Nat.pow 10 (-power).toNat
  let interval := roundingInterval units
  let below := 4 * units * den / num
  let fitsBelow := interval.contains (below * num) den
  let fitsAbove := interval.contains ((below + 1) * num) den
  if fitsBelow && fitsAbove then
    if 8 * units * den < (2 * below + 1) * num then some below else some (below + 1)
  else if fitsBelow then some below
  else if fitsAbove then some (below + 1)
  else none

/-- Walks from a coarse grid to finer ones. -/
def shortestFrom (units : Nat) : Nat → Int → Nat × Int
  | 0, power => (0, power)
  | grids + 1, power =>
      match gridPoint? units power with
      | some digits => (digits, power)
      | none => shortestFrom units grids (power - 1)

/-- The shortest digits of a positive magnitude and their power of ten.  The walk starts at a
power of ten that is not below the magnitude; seventeen digits always read back. -/
def shortest (units : Nat) : Nat × Int :=
  let binaryPower : Int := units.log2 + 1 - 1074
  shortestFrom units 20 (binaryPower * 30103 / 100000 + 1)

/-- Digits times a power of ten, written without an exponent. -/
def positional (digits : Nat) (power : Int) : String :=
  let text := toString digits
  if 0 ≤ power then text ++ String.ofList (List.replicate power.toNat '0')
  else
    let places := (-power).toNat
    let padded := List.replicate (places + 1 - text.length) '0' ++ text.toList
    String.ofList (padded.take (padded.length - places)) ++ "." ++
      String.ofList (padded.drop (padded.length - places))

/-- The text of a number in messages. -/
def toText : Binary64 → String
  | .nan => "NaN"
  | .infinity negative => sign negative ++ "inf"
  | .finite negative units _ =>
      sign negative ++
        if units = 0 then "0"
        else
          let (digits, power) := shortest units
          positional digits power
where
  sign (negative : Bool) : String := if negative then "-" else ""

end PodSizing.Binary64
