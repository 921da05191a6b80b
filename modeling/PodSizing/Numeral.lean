import PodSizing.Binary64

/-!
# Decimal numerals

The unsigned numerals shared by resource quantities, settings and JSON: digits with at most one
point, then possibly a power of ten.  `Numeral.scan` takes the longest numeral at the front of a
text and returns what follows it.  An `e` that no digits follow is not part of the numeral.
-/

namespace PodSizing

/-- An unsigned decimal numeral. -/
structure Numeral where
  /-- The digits before the point. -/
  whole : List Char
  /-- The digits after the point. -/
  fraction : List Char
  /-- The power of ten written after the digits, zero when none is. -/
  exponent : Int
  deriving DecidableEq

namespace Numeral

/-- The number that a run of decimal digits stands for. -/
def digitsValue (digits : List Char) : Nat :=
  digits.foldl (fun value digit => 10 * value + (digit.toNat - '0'.toNat)) 0

/-- Splits a sign from what follows it: `true` for a minus sign. -/
def splitSign : List Char → Bool × List Char
  | '-' :: rest => (true, rest)
  | '+' :: rest => (false, rest)
  | text => (false, text)

/-- The power of ten at the front of a text, if an `e` and at least one digit are there. -/
def scanExponent? : List Char → Option (Int × List Char)
  | [] => none
  | mark :: rest =>
      if mark = 'e' ∨ mark = 'E' then
        let (negative, text) := splitSign rest
        let digits := text.takeWhile Char.isDigit
        if digits.isEmpty then none
        else
          let value : Int := digitsValue digits
          some (if negative then -value else value, text.dropWhile Char.isDigit)
      else none

/-- The digits after a point at the front of a text, if a point is there. -/
def scanFraction (text : List Char) : List Char × List Char :=
  match text with
  | '.' :: rest => (rest.takeWhile Char.isDigit, rest.dropWhile Char.isDigit)
  | _ => ([], text)

/-- The longest numeral at the front of a text, and the rest.  At least one digit has to stand
before or after the point. -/
def scan (text : List Char) : Option (Numeral × List Char) :=
  let whole := text.takeWhile Char.isDigit
  let (fraction, rest) := scanFraction (text.dropWhile Char.isDigit)
  if whole.isEmpty && fraction.isEmpty then none
  else
    match scanExponent? rest with
    | some (exponent, rest) => some (⟨whole, fraction, exponent⟩, rest)
    | none => some (⟨whole, fraction, 0⟩, rest)

/-- The nearest binary64 number. -/
def toBinary64 (numeral : Numeral) (negative : Bool) : Binary64 :=
  .ofDecimal negative (digitsValue (numeral.whole ++ numeral.fraction))
    (numeral.exponent - numeral.fraction.length)

end Numeral

/-- Reads a signed numeral that takes up the whole text, or `inf`, `infinity` or `nan` in any
case. -/
def Binary64.ofText? (text : String) : Option Binary64 :=
  let (negative, unsigned) := Numeral.splitSign text.toList
  let word := String.ofList (unsigned.map Char.toLower)
  if word = "inf" ∨ word = "infinity" then some (.infinity negative)
  else if word = "nan" then some .nan
  else
    match Numeral.scan unsigned with
    | some (numeral, []) => some (numeral.toBinary64 negative)
    | _ => none

example : (Numeral.scan "1.50e3Ki".toList).map Prod.snd = some ['K', 'i'] := by decide +kernel
example : (Numeral.scan "1Ei".toList).map Prod.snd = some ['E', 'i'] := by decide +kernel
example : (Numeral.scan ".".toList).isNone := by decide +kernel

end PodSizing
