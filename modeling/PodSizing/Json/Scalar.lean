import PodSizing.Json
import PodSizing.Json.Cursor
import PodSizing.Numeral

/-!
# Words, numbers and texts in JSON

Each is read in one of two manners.  A value that is wanted is read strictly; one that is only
passed over is read laxly, which means that a number may be out of range and that a surrogate in
a text needs no partner.

A number with a point or an exponent, or one that does not fit into 64 bits, is read from the
digits that fit into 64 bits; further ones are dropped.  It is rounded twice, first to 53
significant bits and then where it is multiplied or divided by a power of ten, and so may differ
from the nearest binary64 number in its last bits.
-/

namespace PodSizing.Json

/-! ### Words -/

/-- Reads a word of which each character has to be the given one. -/
def wordAfter : List Char → List Char → Place → Except Flaw Unit × Cursor
  | [], text, place => (.ok (), ⟨text, place⟩)
  | _ :: _, [], place => (.error .missingValue, ⟨[], place⟩)
  | expected :: word, c :: rest, place =>
      if c = expected then wordAfter word rest (place.after c)
      else (.error .misspelledWord, ⟨rest, place.afterByte c⟩)

/-! ### Texts -/

/-- The value of a hexadecimal digit. -/
def hexDigit? (c : Char) : Option Nat :=
  if c.isDigit then some (c.toNat - '0'.toNat)
  else if 'a' ≤ c ∧ c ≤ 'f' then some (c.toNat - 'a'.toNat + 10)
  else if 'A' ≤ c ∧ c ≤ 'F' then some (c.toNat - 'A'.toNat + 10)
  else none

/-- The value of four hexadecimal digits. -/
def hexFour? (a b c d : Char) : Option Nat := do
  pure ((((← hexDigit? a) * 16 + (← hexDigit? b)) * 16 + (← hexDigit? c)) * 16 + (← hexDigit? d))

/-- The character that a letter after a backslash stands for. -/
def escapedChar? : Char → Option Char
  | '"' => some '"'
  | '\\' => some '\\'
  | '/' => some '/'
  | 'b' => some '\x08'
  | 'f' => some '\x0c'
  | 'n' => some '\n'
  | 'r' => some '\r'
  | 't' => some '\t'
  | _ => none

/-- The code is the first half of a surrogate pair. -/
def isHighSurrogate (code : Nat) : Bool := 0xd800 ≤ code && code < 0xdc00

/-- The code is the second half of a surrogate pair. -/
def isLowSurrogate (code : Nat) : Bool := 0xdc00 ≤ code && code < 0xe000

/-- The code point of a surrogate pair. -/
def pairedCode (high low : Nat) : Nat := 0x10000 + (high - 0xd800) * 0x400 + (low - 0xdc00)

/-- What the reader of a text is in the middle of. -/
inductive TextState where
  | plain
  /-- After a backslash. -/
  | escape
  /-- After so many hexadecimal digits of the given value, and after the first half of a pair. -/
  | digits (count value : Nat) (high : Option Nat)
  /-- After the first half of a pair, and then after a backslash or not yet. -/
  | partner (high : Nat) (afterBackslash : Bool)

/-- What the code of an escape adds to a text, and the state after it. -/
def codeStep (code : Nat) : Option Nat → Except Flaw (List Char × TextState)
  | none =>
      if isLowSurrogate code then .error .loneSurrogate
      else if isHighSurrogate code then .ok ([], .partner code false)
      else .ok ([Char.ofNat code], .plain)
  | some high =>
      if isLowSurrogate code then .ok ([Char.ofNat (pairedCode high code)], .plain)
      else .error .loneSurrogate

/-- Reads a text after its opening quote, given what has been read in reverse.  A code point
beyond 16 bits is written as two escapes, which have to stand together in the strict manner. -/
def textAfter (strict : Bool) : TextState → List Char → List Char → Place →
    Except Flaw String × Cursor
  | _, _, [], place => (.error .unclosedText, ⟨[], place⟩)
  | state, reversed, c :: rest, place =>
      let next := place.after c
      match state with
      | .plain =>
          if c = '"' then (.ok (String.ofList reversed.reverse), ⟨rest, next⟩)
          else if c = '\\' then textAfter strict .escape reversed rest next
          else if c.toNat < 0x20 then
            (.error .controlCharacter, ⟨rest, if strict then next else place⟩)
          else textAfter strict .plain (c :: reversed) rest next
      | .escape =>
          if c = 'u' then textAfter strict (.digits 0 0 none) reversed rest next
          else
            match escapedChar? c with
            | some escaped => textAfter strict .plain (escaped :: reversed) rest next
            | none => (.error .invalidEscape, ⟨rest, place.afterByte c⟩)
      | .digits count value high =>
          let window := (c :: rest).take 4
          if count = 0 ∧ (window.map Char.utf8Size).sum < 4 then
            (.error .unclosedText, ⟨[], place.atEnd (c :: rest)⟩)
          else
            match hexDigit? c with
            | none => (.error .invalidEscape, ⟨rest, place.afterBytes (4 - count) (c :: rest)⟩)
            | some digit =>
                let code := value * 16 + digit
                if count < 3 then
                  textAfter strict (.digits (count + 1) code high) reversed rest next
                else if !strict then textAfter strict .plain reversed rest next
                else
                  match codeStep code high with
                  | .ok (added, state) => textAfter strict state (added ++ reversed) rest next
                  | .error flaw => (.error flaw, ⟨rest, next⟩)
      | .partner high afterBackslash =>
          if !afterBackslash ∧ c = '\\' then
            textAfter strict (.partner high true) reversed rest next
          else if afterBackslash ∧ c = 'u' then
            textAfter strict (.digits 0 0 (some high)) reversed rest next
          else (.error .brokenSurrogate, ⟨rest, place.afterByte c⟩)

/-! ### Numbers -/

/-- A number as it is written. -/
structure NumberText where
  negative : Bool
  whole : List Char
  /-- The digits after a point. -/
  fraction : Option (List Char)
  /-- The digits of an exponent, and whether it is negative. -/
  exponent : Option (Bool × List Char)

/-- The place after digits. -/
def Place.afterDigits (place : Place) (digits : List Char) : Place :=
  { place with column := place.column + digits.length }

/-- The flaw of a number that lacks a digit, at the end of the text or before a character. -/
def digitFlaw (strict : Bool) (text : List Char) : Flaw :=
  if strict ∧ text = [] then .missingValue else .invalidNumber

/-- Reads the digits after a point, if a point is here. -/
def fractionAfter (strict : Bool) (text : List Char) (place : Place) :
    Except Flaw (Option (List Char)) × Cursor :=
  match text with
  | '.' :: rest =>
      let place := place.after '.'
      let digits := rest.takeWhile Char.isDigit
      let cursor : Cursor := ⟨rest.dropWhile Char.isDigit, place.afterDigits digits⟩
      if digits = [] then
        (.error (digitFlaw strict rest), { cursor with place := place.afterBytes 1 rest })
      else (.ok (some digits), cursor)
  | _ => (.ok none, ⟨text, place⟩)

/-- Reads the sign of an exponent. -/
def exponentSign (text : List Char) (place : Place) : Bool × Cursor :=
  match text with
  | '-' :: rest => (true, ⟨rest, place.after '-'⟩)
  | '+' :: rest => (false, ⟨rest, place.after '+'⟩)
  | _ => (false, ⟨text, place⟩)

/-- Reads an exponent, if one is here. -/
def exponentAfter (strict : Bool) (text : List Char) (place : Place) :
    Except Flaw (Option (Bool × List Char)) × Cursor :=
  match text with
  | mark :: rest =>
      if mark = 'e' ∨ mark = 'E' then
        let (negative, cursor) := exponentSign rest (place.after mark)
        let digits := cursor.rest.takeWhile Char.isDigit
        if digits = [] then
          (.error (digitFlaw strict cursor.rest),
            { cursor with place := cursor.place.afterBytes 1 cursor.rest })
        else
          (.ok (some (negative, digits)),
            ⟨cursor.rest.dropWhile Char.isDigit, cursor.place.afterDigits digits⟩)
      else (.ok none, ⟨text, place⟩)
  | [] => (.ok none, ⟨text, place⟩)

/-- Reads a number after its sign: no leading zeros, and digits on both sides of a point. -/
def numberAfter (strict negative : Bool) (text : List Char) (place : Place) :
    Except Flaw NumberText × Cursor :=
  let whole := text.takeWhile Char.isDigit
  let rest := text.dropWhile Char.isDigit
  if whole = [] then (.error (digitFlaw strict text), ⟨text, place.afterBytes 1 text⟩)
  else if whole.head? = some '0' ∧ 1 < whole.length then
    (.error .invalidNumber, ⟨text, place.afterBytes 2 text⟩)
  else
    match fractionAfter strict rest (place.afterDigits whole) with
    | (.error flaw, cursor) => (.error flaw, cursor)
    | (.ok fraction, cursor) =>
        match exponentAfter strict cursor.rest cursor.place with
        | (.error flaw, cursor) => (.error flaw, cursor)
        | (.ok exponent, cursor) => (.ok ⟨negative, whole, fraction, exponent⟩, cursor)

/-- A number and digits after it as far as they fit into 64 bits together, and the count of these
digits. -/
def takeDigits (value : Nat) : List Char → Nat × Nat
  | [] => (value, 0)
  | digit :: rest =>
      let longer := 10 * value + Numeral.digitsValue [digit]
      if longer < Nat.pow 2 64 then
        let (value, count) := takeDigits longer rest
        (value, count + 1)
      else (value, 0)

/-- A number times a power of ten, by one multiplication or division where the exponent lies
within 308; beyond that, division goes on step by step to zero. -/
def scaleByTen? (value : Binary64) (exponent : Int) : Nat → Option Binary64
  | 0 => some value
  | steps + 1 =>
      let power (exponent : Nat) : Binary64 := .ofDecimal false 1 exponent
      if exponent.natAbs ≤ 308 then
        let scaled :=
          if 0 ≤ exponent then value * power exponent.toNat else value / power exponent.natAbs
        if scaled.isFinite then some scaled else none
      else if value.isZero then some value
      else if 0 ≤ exponent then none
      else scaleByTen? (value / power 308) (exponent + 308) steps

/-- The largest exponent that is taken as written. -/
def maxExponent : Nat := Nat.pow 2 31 - 1

/-- How many digits lead beyond the largest exponent, where they do. -/
def exponentReach? (digits : List Char) : Option Nat :=
  (List.range (digits.length + 1)).find? fun count =>
    maxExponent < Numeral.digitsValue (digits.take count)

namespace NumberText

/-- The digits that are kept, and the power of ten that they are to be multiplied by where no
exponent is written. -/
def significand (text : NumberText) : Nat × Int :=
  let (whole, kept) := takeDigits 0 text.whole
  let (value, decimals) := takeDigits whole (text.fraction.getD [])
  (value, ((text.whole.length - kept : Nat) : Int) - decimals)

/-- The number with a point, an exponent or too many digits.  Where it is out of range, the answer
is how many of its characters are left when that shows. -/
def real (text : NumberText) : Except Nat Binary64 :=
  let (significand, power) := text.significand
  let scaled (exponent : Int) : Except Nat Binary64 :=
    match scaleByTen? (.ofRatio text.negative significand 1) exponent 4 with
    | some value => .ok value
    | none => .error 0
  match text.exponent with
  | none => scaled power
  | some (negative, digits) =>
      match exponentReach? digits with
      | none =>
          let written : Int := Numeral.digitsValue digits
          scaled (power + if negative then -written else written)
      | some count =>
          if significand = 0 ∨ negative then .ok (.zero text.negative)
          else .error (digits.length - count)

/-- The number.  One without a point and an exponent is an integer if it fits into 64 bits, with a
sign where it is negative; zero with a minus sign is none. -/
def number (text : NumberText) : Except Nat Number :=
  let value := Numeral.digitsValue text.whole
  let isWhole := text.fraction.isNone && text.exponent.isNone
  if isWhole ∧ !text.negative ∧ value < Nat.pow 2 64 then .ok (.integer value)
  else if isWhole ∧ text.negative ∧ 0 < value ∧ value ≤ Nat.pow 2 63 then .ok (.integer (-value))
  else text.real.map .real

end NumberText

namespace Scan

/-- Reads a word. -/
def word (text : String) : Scan Unit := ofFunction (wordAfter text.toList)

/-- Reads a text after its opening quote. -/
def text : Scan String := ofFunction (textAfter true .plain [])

/-- Passes over a text after its opening quote. -/
def skipText : Scan Unit := do
  let _ ← ofFunction (textAfter false .plain [])

/-- Reads a number as it is written. -/
def numberText (strict : Bool) : Scan NumberText := do
  let negative := (← get).rest.head? = some '-'
  if negative then drop
  ofFunction (numberAfter strict negative)

/-- Reads a number. -/
def number : Scan Number := do
  let text ← numberText true
  match text.number with
  | .ok number => pure number
  | .error left =>
      let place := (← get).place
      throw ⟨.numberTooLarge, some { place with column := place.column - left }⟩

end Scan

end PodSizing.Json
