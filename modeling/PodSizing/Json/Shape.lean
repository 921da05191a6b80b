/-!
# Shapes of JSON values

A shape says what is wanted of a JSON text.  It names the fields that matter; a reader passes over
all others without a look at their meaning.
-/

namespace PodSizing.Json

/-- What a value has to be. -/
inductive Shape where
  /-- Any value, which is kept as it is. -/
  | any
  | text
  /-- An integer within bounds. -/
  | integer (name : String) (least most : Int)
  | flag
  /-- A text in which nothing is found to be wrong. -/
  | checked (name : String) (fault? : String → Option String)
  /-- A certain text. -/
  | exactly (text : String)
  | nullable (shape : Shape)
  | list (item : Shape)
  /-- An object with any keys. -/
  | map (value : Shape)
  /-- An object in which each field may be missing, and of a repeated one the last counts. -/
  | object (name : String) (fields : List (String × Shape))
  /-- An object in which no field is repeated, or an array of the fields in their order; the flag
  says that a field may be missing. -/
  | record (name : String) (fields : List (String × Bool × Shape))

namespace Shape

/-- An integer of 64 bits with a sign. -/
def integer64 : Shape := .integer "i64" (-(Nat.pow 2 63)) (Nat.pow 2 63 - 1)

/-- A natural number of 16 bits. -/
def natural16 : Shape := .integer "u16" 0 (Nat.pow 2 16 - 1)

/-- The shape in a message. -/
def expected : Shape → String
  | .any => "any value"
  | .text | .exactly _ => "a string"
  | .integer name _ _ | .checked name _ => name
  | .flag => "a boolean"
  | .nullable shape => shape.expected
  | .list _ => "a sequence"
  | .map _ => "a map"
  | .object name _ => name
  | .record name _ => "struct " ++ name

/-- The shape of a field that is not passed over. -/
def fieldShape? : Shape → String → Option Shape
  | .any, _ => some .any
  | .map value, _ => some value
  | .object _ fields, key => fields.lookup key
  | .record _ fields, key => (fields.lookup key).map Prod.snd
  | _, _ => none

/-- No field of the shape may be repeated. -/
def isStrict : Shape → Bool
  | .record .. => true
  | _ => false

end Shape

/-- A record in the message about an array that is too short for it. -/
def recordLength (name : String) (length : Nat) : String :=
  "struct " ++ name ++ " with " ++ toString length ++
    (if length = 1 then " element" else " elements")

end PodSizing.Json
