import PodSizing.Json.Record
import PodSizing.Numeral
import PodSizing.Binary64.Shortest

/-!
# Values of settings

A setting may be written in more than one way: a number or a flag also as a text, a number also
as a flag, a whole number also with a fraction, which is rounded.  `lenient` holds the readers of
these forms.
-/

namespace PodSizing

/-- Reads a whole number that takes up the whole text, possibly with a sign. -/
def Numeral.integer? (text : List Char) : Option Int :=
  let (negative, digits) := splitSign text
  if digits.isEmpty || !digits.all Char.isDigit then none
  else some (if negative then -digitsValue digits else digitsValue digits)

namespace Configuration

open Json

/-- A whole number fits into 64 bits with a sign. -/
def fitsSigned (value : Int) : Bool :=
  -Nat.pow 2 63 ≤ value && value < Nat.pow 2 63

/-- The number as settings keep it: whole numbers have 64 bits with a sign, and one that does not
fit is rounded to binary64. -/
def settle : Json.Number → Json.Number
  | .integer value =>
      if fitsSigned value then .integer value
      else .real (.ofRatio (value < 0) value.natAbs 1)
  | .real value => .real value

/-- The largest whole number that a setting takes. -/
def maxWhole : Nat := Nat.pow 2 64 - 1

/-- The flag that a word stands for, in letters of any case. -/
def flagOfWord? (word : String) : Option Bool :=
  let word := String.ofList (word.toList.map Char.toLower)
  if word = "true" ∨ word = "on" ∨ word = "yes" then some true
  else if word = "false" ∨ word = "off" ∨ word = "no" then some false
  else none

/-- A natural number of 64 bits: a number, rounded where it has a fraction and moved into range,
a flag as one or zero, a word for a flag, or the digits of a number after an optional plus. -/
def whole? : Json → Option Nat
  | .number given =>
      match settle given with
      | .integer value => if 0 ≤ value then some value.toNat else none
      | .real value => some (value.roundToNat maxWhole)
  | .bool value => some value.toNat
  | .string text =>
      match flagOfWord? text with
      | some value => some value.toNat
      | none =>
          if text.toList.head? = some '-' then none
          else
            match Numeral.integer? text.toList with
            | some value => if value ≤ maxWhole then some value.toNat else none
            | none => none
  | _ => none

/-- A number, a flag as one or zero, a word for a flag, or the text of a number. -/
def real? : Json → Option Binary64
  | .number given =>
      match settle given with
      | .integer value => some (.ofRatio (value < 0) value.natAbs 1)
      | .real value => some value
  | .bool value => some (.ofNat value.toNat)
  | .string text =>
      match flagOfWord? text with
      | some value => some (.ofNat value.toNat)
      | none => Binary64.ofText? text
  | _ => none

/-- A flag, a number that counts as set unless it is zero, a word for a flag, or the digit one or
zero as text. -/
def flag? : Json → Option Bool
  | .bool value => some value
  | .number given =>
      match settle given with
      | .integer value => some (value != 0)
      | .real value => some !value.isZero
  | .string text =>
      if text = "1" then some true
      else if text = "0" then some false
      else flagOfWord? text
  | _ => none

/-- A text, or the text of a flag or a number. -/
def text? : Json → Option String
  | .string text => some text
  | .bool value => some (if value then "true" else "false")
  | .number given =>
      match settle given with
      | .integer value => some (toString value)
      | .real value => some value.toText
  | _ => none

/-- The forms that the value of a setting may have. -/
def lenient : Conversion where
  whole? := whole?
  real? := real?
  flag? := flag?
  text? := text?
  allowsSurplus := true

example : whole? (.number (.real (.ofDecimal false 25 (-1)))) = some 3 := by decide +kernel
example : whole? (.string "+7") = some 7 := by decide +kernel
example : text? (.number (.integer 18446744073709551615)) = some "18446744073709552000" := by
  decide +kernel

end Configuration

end PodSizing
