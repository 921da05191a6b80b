import PodSizing.Json.Scalar

/-!
# Scalars in TOML

Flags, whole numbers of 64 bits, binary64 numbers, and dates and times.  Digits may have single
underscores between them.  A date or a time is kept as its text, with a capital `T` between the
two and without zeros at the end of a fraction.
-/

namespace PodSizing.Toml

open Json (hexDigit?)

/-- The digits without the underscores, of which single ones may stand between two digits. -/
def digitRun? (isDigit : Char → Bool) : List Char → Option (List Char)
  | [] => none
  | [c] => if isDigit c then some [c] else none
  | c :: '_' :: rest => if isDigit c then (digitRun? isDigit rest).map (c :: ·) else none
  | c :: rest => if isDigit c then (digitRun? isDigit rest).map (c :: ·) else none

/-- The decimal digits of a whole part, which has no zero at its front unless it is zero. -/
def wholePart? (text : List Char) : Option (List Char) :=
  match digitRun? Char.isDigit text with
  | some ('0' :: _ :: _) => none
  | found => found

/-- A number of 64 bits with a sign. -/
def signed? (value : Int) : Option Json :=
  if -Nat.pow 2 63 ≤ value ∧ value < Nat.pow 2 63 then some (.number (.integer value)) else none

/-- A whole number in a base other than ten. -/
def based? (base : Nat) (text : List Char) : Option Json := do
  let isDigit (c : Char) := ((hexDigit? c).filter (· < base)).isSome
  let digits ← digitRun? isDigit text
  let value : Nat := digits.foldl (fun value c => base * value + (hexDigit? c).getD 0) 0
  signed? value

/-- A number with a fraction or an exponent. -/
def real? (negative : Bool) (text : List Char) : Option Json := do
  let isMark (c : Char) := c == 'e' || c == 'E'
  let mantissa := text.takeWhile (!isMark ·)
  let exponent ← match text.dropWhile (!isMark ·) with
    | [] => some 0
    | _ :: written => do
        let (negative, digits) := Numeral.splitSign written
        let value : Int := Numeral.digitsValue (← digitRun? Char.isDigit digits)
        some (if negative then -value else value)
  let whole ← wholePart? (mantissa.takeWhile (· != '.'))
  let fraction ← match mantissa.dropWhile (· != '.') with
    | [] => some []
    | _ :: digits => digitRun? Char.isDigit digits
  let value := Numeral.toBinary64 ⟨whole, fraction, exponent⟩ negative
  if value = .infinity false then none else some (.number (.real value))

/-- A number. -/
def number? (word : List Char) : Option Json :=
  match word with
  | '0' :: 'x' :: digits => based? 16 digits
  | '0' :: 'o' :: digits => based? 8 digits
  | '0' :: 'b' :: digits => based? 2 digits
  | _ =>
      let (negative, unsigned) := Numeral.splitSign word
      if unsigned = "inf".toList then some (.number (.real (.infinity negative)))
      else if unsigned = "nan".toList then some (.number (.real .nan))
      else
        match wholePart? unsigned with
        | some digits =>
            let value : Int := Numeral.digitsValue digits
            signed? (if negative then -value else value)
        | none => real? negative unsigned

/-! ### Dates and times -/

/-- Two digits with a value of at most the given one. -/
def isTwoDigits (most : Nat) (tens ones : Char) : Bool :=
  tens.isDigit && ones.isDigit && Numeral.digitsValue [tens, ones] ≤ most

/-- The days of a month, counted from one, in a year. -/
def daysInMonth (year month : Nat) : Nat :=
  if month = 2 then
    if year % 4 = 0 ∧ (year % 100 ≠ 0 ∨ year % 400 = 0) then 29 else 28
  else if month = 4 ∨ month = 6 ∨ month = 9 ∨ month = 11 then 30
  else 31

/-- Year, month and day. -/
def isDate (text : List Char) : Bool :=
  match text with
  | [y, y', y'', y''', '-', m, m', '-', d, d'] =>
      let year := Numeral.digitsValue [y, y', y'', y''']
      let month := Numeral.digitsValue [m, m']
      let day := Numeral.digitsValue [d, d']
      [y, y', y'', y''', d, d'].all Char.isDigit && isTwoDigits 12 m m' && 1 ≤ month &&
        1 ≤ day && day ≤ daysInMonth year month
  | _ => false

/-- A fraction of a second without the digits past the ninth and the zeros at its end. -/
def fractionText (digits : List Char) : List Char :=
  match ((digits.take 9).reverse.dropWhile (· == '0')).reverse with
  | [] => []
  | kept => '.' :: kept

/-- Hours, minutes and seconds, possibly with a fraction, and what follows. -/
def time? : List Char → Option (List Char × List Char)
  | h :: h' :: ':' :: m :: m' :: ':' :: s :: s' :: rest =>
      if isTwoDigits 23 h h' && isTwoDigits 59 m m' && isTwoDigits 60 s s' then
        let clock := [h, h', ':', m, m', ':', s, s']
        match rest with
        | '.' :: more =>
            let digits := more.takeWhile Char.isDigit
            if digits.isEmpty then none
            else some (clock ++ fractionText digits, more.dropWhile Char.isDigit)
        | _ => some (clock, rest)
      else none
  | _ => none

/-- The offset from universal time, where one is given. -/
def offset? : List Char → Option (List Char)
  | [] => some []
  | ['Z'] | ['z'] => some ['Z']
  | [sign, h, h', ':', m, m'] =>
      if (sign = '+' ∨ sign = '-') ∧ isTwoDigits 23 h h' ∧ isTwoDigits 59 m m' then
        if [h, h', m, m'].all (· == '0') then some "+00:00".toList
        else some [sign, h, h', ':', m, m']
      else none
  | _ => none

/-- A date, a time, or both with or without an offset. -/
def dateTime? (word : List Char) : Option (List Char) :=
  if isDate word then some word
  else if isDate (word.take 10) then
    match word.drop 10 with
    | mark :: rest =>
        if mark = 'T' ∨ mark = 't' then do
          let (time, rest) ← time? rest
          some (word.take 10 ++ 'T' :: time ++ (← offset? rest))
        else none
    | [] => none
  else
    match time? word with
    | some (time, []) => some time
    | _ => none

/-! ### Words -/

/-- The characters of scalars other than texts. -/
def isScalarChar (c : Char) : Bool :=
  c.isAlphanum || c == '+' || c == '-' || c == '_' || c == '.' || c == ':'

/-- The value of a word. -/
def ofWord? (word : List Char) : Option Json :=
  if word = "true".toList then some (.bool true)
  else if word = "false".toList then some (.bool false)
  else
    match dateTime? word with
    | some text => some (.string (String.ofList text))
    | none => number? word

/-- The scalar at the front.  A single space may stand between a date and a time. -/
def scalar? (text : List Char) : Option (Json × List Char) :=
  let word := text.takeWhile isScalarChar
  let rest := text.dropWhile isScalarChar
  let alone := (ofWord? word).map (·, rest)
  match rest with
  | ' ' :: after =>
      if isDate word && (after.head?.map Char.isDigit).getD false then
        (ofWord? (word ++ 'T' :: after.takeWhile isScalarChar)).map
          (·, after.dropWhile isScalarChar)
      else alone
  | _ => alone

example : (dateTime? "1979-05-27t07:32:00.500-00:00".toList) =
    some "1979-05-27T07:32:00.5+00:00".toList := by decide +kernel
example : (number? "1_000".toList).isSome ∧ (number? "01".toList).isNone ∧
    (number? "1.".toList).isNone ∧ (number? "1__0".toList).isNone := by decide +kernel

end PodSizing.Toml
