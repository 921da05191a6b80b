import PodSizing.Instant
import PodSizing.Instant.Calendar
import PodSizing.Numeral
import PodSizing.Text.Blank

/-!
# Timestamps

The RFC 3339 text of an instant.  Writing gives UTC with a fraction of 0, 3, 6 or 9 digits, the
fewest that are exact.  Reading takes any offset from UTC, one or two digits for the parts of the
date and the time, a space in place of the `T`, blanks between the parts, and further digits of
the fraction, which it drops.  A date alone or a time without an offset is refused.

A timestamp may also lie in a leap second, the second 60 of a minute.  Any minute may have one.
-/

namespace PodSizing

open PodSizing.Calendar

/-- An instant, or the same place in the leap second that follows its second. -/
structure Timestamp where
  instant : Instant
  leap : Bool
  /-- A leap second follows the last second of a minute. -/
  leap_end : leap = true → instant.seconds % 60 = 59
  deriving DecidableEq

namespace Timestamp

/-- An instant outside leap seconds. -/
def ofInstant (instant : Instant) : Timestamp := ⟨instant, false, by simp⟩

instance : Coe Instant Timestamp := ⟨ofInstant⟩

/-- How the offset zero is written. -/
inductive ZoneMark where
  /-- The letter `Z`. -/
  | letter
  /-- The digits `+00:00`. -/
  | digits
  deriving DecidableEq

/-- A number with zeros in front up to a width. -/
def padded (width value : Nat) : String :=
  let text := toString value
  String.ofList (List.replicate (width - text.length) '0') ++ text

/-- Four digits, and a sign in front of a year that does not lie within 0 to 9999. -/
def yearText (year : Int) : String :=
  if 0 ≤ year ∧ year ≤ 9999 then padded 4 year.toNat
  else (if year < 0 then "-" else "+") ++ padded 4 year.natAbs

/-- The fraction of a second in the fewest groups of three digits. -/
def fractionText (nanos : Nat) : String :=
  if nanos = 0 then ""
  else if nanos % 1000000 = 0 then "." ++ padded 3 (nanos / 1000000)
  else if nanos % 1000 = 0 then "." ++ padded 6 (nanos / 1000)
  else "." ++ padded 9 nanos

/-- Date and time up to the second. -/
def secondText (timestamp : Timestamp) : String :=
  let seconds := timestamp.instant.seconds
  let date := dateOfDay (seconds / 86400)
  let secondOfDay := (seconds % 86400).toNat
  yearText date.year ++ "-" ++ padded 2 date.month ++ "-" ++ padded 2 date.day ++ "T" ++
    padded 2 (secondOfDay / 3600) ++ ":" ++ padded 2 (secondOfDay / 60 % 60) ++ ":" ++
    padded 2 (secondOfDay % 60 + if timestamp.leap then 1 else 0)

/-- The timestamp in UTC. -/
def toText (timestamp : Timestamp) (zone : ZoneMark) : String :=
  timestamp.secondText ++ fractionText (timestamp.instant.nanos % 1000000000).toNat ++
    match zone with
    | .letter => "Z"
    | .digits => "+00:00"

/-- The timestamp in UTC without the fraction of its second. -/
def toWholeText (timestamp : Timestamp) : String := timestamp.secondText ++ "Z"

/-! ### Reading -/

/-- Why a text is no timestamp. -/
inductive Fault where
  /-- A character stands where it may not. -/
  | misplaced
  /-- The text ends too early. -/
  | cutOff
  /-- The text goes on after the timestamp. -/
  | surplus
  /-- A number is too large for its place, or the date does not exist. -/
  | outOfRange
  /-- The instant lies outside the years that instants have. -/
  | unreachable
  deriving DecidableEq

/-- The fault in words. -/
def Fault.message : Fault → String
  | .misplaced => "input contains invalid characters"
  | .cutOff => "premature end of input"
  | .surplus => "trailing input"
  | .outOfRange => "input is out of range"
  | .unreachable => "no possible date and time matching input"

/-- The fault of a text that does not start as it should. -/
def faultOf (text : List Char) : Fault := if text.isEmpty then .cutOff else .misplaced

/-- Takes at most `width` digits, at least one, and gives what follows them. -/
def scanDigits (width : Nat) (text : List Char) : Except Fault (Nat × List Char) :=
  let digits := (text.take width).takeWhile Char.isDigit
  if digits.isEmpty then .error (faultOf text)
  else .ok (Numeral.digitsValue digits, text.drop digits.length)

/-- Takes a number of one or two digits within bounds, which may follow blanks. -/
def scanWithin (least most : Nat) (text : List Char) : Except Fault (Nat × List Char) := do
  let (value, rest) ← scanDigits 2 (Text.trimStart text)
  if least ≤ value ∧ value ≤ most then .ok (value, rest) else .error .outOfRange

/-- A year of at most four digits, or of any number of digits after a sign. -/
def scanYear (text : List Char) : Except Fault (Int × List Char) :=
  match Text.trimStart text with
  | '-' :: rest => signed rest fun year => -year
  | '+' :: rest => signed rest fun year => year
  | text => do
      let (year, rest) ← scanDigits 4 text
      .ok (year, rest)
where
  signed (rest : List Char) (sign : Int → Int) : Except Fault (Int × List Char) := do
    let (value, rest) ← scanDigits rest.length rest
    let year := sign value
    if -(Nat.pow 2 31) ≤ year ∧ year < Nat.pow 2 31 then .ok (year, rest) else .error .outOfRange

/-- Takes one character, which may follow blanks. -/
def scanMark (mark : Char) (text : List Char) : Except Fault (List Char) :=
  match Text.trimStart text with
  | c :: rest => if c = mark then .ok rest else .error .misplaced
  | [] => .error .cutOff

/-- The mark between date and time is a `T` in either case or one space. -/
def scanDivider : List Char → Except Fault (List Char)
  | 'T' :: rest | 't' :: rest | ' ' :: rest => .ok rest
  | text => .error (faultOf text)

/-- The nanoseconds of a fraction, zero where no point stands; digits after the ninth are
dropped. -/
def scanNanos : List Char → Except Fault (Nat × List Char)
  | '.' :: rest => do
      let (value, after) ← scanDigits 9 rest
      let count := rest.length - after.length
      .ok (value * Nat.pow 10 (9 - count), after.dropWhile Char.isDigit)
  | text => .ok (0, text)

/-- The number of two digits at the front, the first of which is at most `most`. -/
def scanTwoDigits (most : Char) : List Char → Except Fault (Nat × List Char)
  | a :: b :: rest =>
      if !(a.isDigit && b.isDigit) then .error .misplaced
      else if most < a then .error .outOfRange
      else .ok (Numeral.digitsValue [a, b], rest)
  | [c] => .error (if c.utf8Size < 2 then .cutOff else .misplaced)
  | [] => .error .cutOff

/-- The offset from UTC in seconds: `Z`, `UTC`, or a sign with two digits of hours and two of
minutes, between which colons or blanks may stand. -/
def scanOffset (text : List Char) : Except Fault (Int × List Char) :=
  if (text.take 3).map Char.toLower = ['u', 't', 'c'] then .ok (0, text.drop 3)
  else
    match text with
    | 'Z' :: rest | 'z' :: rest => .ok (0, rest)
    | '+' :: rest => hoursMinutes rest fun seconds => seconds
    | '-' :: rest | '−' :: rest => hoursMinutes rest fun seconds => -seconds
    | text => .error (faultOf text)
where
  hoursMinutes (text : List Char) (sign : Int → Int) : Except Fault (Int × List Char) := do
    let (hours, rest) ← scanTwoDigits '9' text
    let (minutes, rest) ← scanTwoDigits '5'
      (rest.dropWhile fun c => c == ':' || Text.isBlank c)
    .ok (sign (hours * 3600 + minutes * 60 : Nat), rest)

/-- The parts of a timestamp's text. -/
structure Parts where
  date : Date
  hour : Nat
  minute : Nat
  second : Nat
  nanos : Nat
  /-- The offset from UTC in seconds. -/
  offset : Int

/-- The parts that a text names. -/
def Parts.ofText (text : String) : Except Fault Parts := do
  let (year, rest) ← scanYear text.toList
  let (month, rest) ← scanWithin 1 12 (← scanMark '-' rest)
  let (day, rest) ← scanWithin 1 31 (← scanMark '-' rest)
  let (hour, rest) ← scanWithin 0 23 (← scanDivider rest)
  let (minute, rest) ← scanWithin 0 59 (← scanMark ':' rest)
  let (second, rest) ← scanWithin 0 60 (← scanMark ':' rest)
  let (nanos, rest) ← scanNanos rest
  let (offset, rest) ← scanOffset (Text.trimStart rest)
  if (Text.trimStart rest).isEmpty then
    .ok ⟨⟨year, month, day⟩, hour, minute, second, nanos, offset⟩
  else .error .surplus

/-- The timestamp of some parts.  Both the date that is written and that in UTC have to lie in the
years that instants have. -/
def ofParts (parts : Parts) : Except Fault Timestamp := do
  let inYears := -262143 ≤ parts.date.year ∧ parts.date.year ≤ 262142
  if ¬(inYears ∧ parts.date.isValid ∧ parts.offset.natAbs < 86400) then .error .outOfRange
  else
    let leap := parts.second == 60
    let second := if leap then 59 else parts.second
    let seconds := dayOfDate parts.date * 86400 + parts.hour * 3600 + parts.minute * 60 + second
    match Instant.ofNanos? ((seconds - parts.offset) * 1000000000 + parts.nanos) with
    | none => .error .unreachable
    | some instant =>
        if leap_end : leap = true → instant.seconds % 60 = 59 then .ok ⟨instant, leap, leap_end⟩
        else .error .misplaced

/-- The timestamp that a text names. -/
def ofText (text : String) : Except Fault Timestamp := do ofParts (← Parts.ofText text)

example : (ofText "2023-11-14T22:13:20.5+02:00").toOption.map (·.toText .letter) =
    some "2023-11-14T20:13:20.500Z" := by decide +kernel
example : (ofText "2016-12-31T23:59:60Z").toOption.map (·.toText .letter) =
    some "2016-12-31T23:59:60Z" := by decide +kernel
example : (ofText "2024-01-01").toOption.isNone := by decide +kernel
example : (ofInstant .last).toText .letter = "+262142-12-31T23:59:59.999999999Z" := by
  decide +kernel

end Timestamp

end PodSizing
