import PodSizing.Json
import PodSizing.Binary64.Shortest

/-!
# Writing JSON text

The compact form, without blanks.  Numbers that are not integers are written with a point or an
exponent, so that they read back as such, and positionally where the point lies within sixteen
digits after or four zeros before the first digit.  An exponent carries its sign.
-/

namespace PodSizing.Json

/-- Four hexadecimal digits. -/
def hexFour (value : Nat) : String :=
  let digits := Nat.toDigits 16 value
  String.ofList (List.replicate (4 - digits.length) '0' ++ digits)

/-- What stands for a character between quotes. -/
def escapeChar (c : Char) : String :=
  if c = '"' then "\\\""
  else if c = '\\' then "\\\\"
  else if c = '\n' then "\\n"
  else if c = '\r' then "\\r"
  else if c = '\t' then "\\t"
  else if c = '\x08' then "\\b"
  else if c = '\x0c' then "\\f"
  else if c.toNat < 0x20 then "\\u" ++ hexFour c.toNat
  else c.toString

/-- A text between quotes. -/
def quote (text : String) : String :=
  "\"" ++ text.foldl (fun written c => written ++ escapeChar c) "" ++ "\""

/-- Significant digits times a power of ten. -/
def scientificText (digits : Nat) (power : Int) : String :=
  let text := toString digits
  let point : Int := text.length + power
  if 0 ≤ power ∧ point ≤ 16 then Binary64.positional digits power ++ ".0"
  else if -5 < point ∧ point ≤ 16 then Binary64.positional digits power
  else
    let exponent := (if 0 < point then "e+" else "e") ++ toString (point - 1)
    match text.toList with
    | [] | [_] => text ++ exponent
    | first :: rest => first.toString ++ "." ++ String.ofList rest ++ exponent

/-- A number that is not an integer; JSON has no text for NaN and the infinities. -/
def realText : Binary64 → String
  | .nan | .infinity _ => "null"
  | .finite negative units _ =>
      (if negative then "-" else "") ++
        if units = 0 then "0.0"
        else
          let (digits, power) := Binary64.shortest units
          scientificText digits power

/-- The text of a number; a real one that is whole keeps its point. -/
def numberText : Number → String
  | .integer value => toString value
  | .real value => realText value

mutual

/-- The compact text of a value. -/
def toText : Json → String
  | .null => "null"
  | .bool value => if value then "true" else "false"
  | .number value => numberText value
  | .string value => quote value
  | .array items => "[" ++ ",".intercalate (itemTexts items) ++ "]"
  | .object fields => "\x7b" ++ ",".intercalate (fieldTexts fields) ++ "\x7d"

/-- The texts of the items of a list. -/
def itemTexts : List Json → List String
  | [] => []
  | item :: rest => toText item :: itemTexts rest

/-- The texts of the fields of an object, in the order in which they stand. -/
def fieldTexts : List (String × Json) → List String
  | [] => []
  | (key, value) :: rest => (quote key ++ ":" ++ toText value) :: fieldTexts rest

end

end PodSizing.Json
