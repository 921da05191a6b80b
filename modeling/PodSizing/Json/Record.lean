import PodSizing.Json

/-!
# Records in JSON

How a typed value is read from JSON.  Nothing is converted: a number field takes no text and an
integer field takes no number with a point.  A record is an object whose unknown keys are ignored,
or an array of the fields in the order of their declaration.  `Entry` says what stands for a
field, and the readers `required`, `optional` and `withDefault` say what each kind of field makes
of it.
-/

namespace PodSizing.Json

/-- What stands for one field of a record. -/
inductive Entry where
  | value (json : Json)
  /-- An object without the key. -/
  | missing
  /-- An array that ends before the field. -/
  | cutOff

/-- The entries of a record's fields, from an object by key or from an array by position.  An
array with more items than there are fields is refused. -/
def entries? (names : List String) : Json → Option (List Entry)
  | .object fields => some <| names.map fun name =>
      match fields.lookup name with
      | some json => .value json
      | none => .missing
  | .array items =>
      if names.length < items.length then none
      else
        some (items.map .value ++ List.replicate (names.length - items.length) .cutOff)
  | _ => none

/-- A field that has to be there. -/
def required {α : Type} (decode : Json → Option α) : Entry → Option α
  | .value json => decode json
  | .missing | .cutOff => none

/-- A field that may be null or missing in an object. -/
def optional {α : Type} (decode : Json → Option α) : Entry → Option (Option α)
  | .value .null | .missing => some none
  | .value json => (decode json).map some
  | .cutOff => none

/-- A field with a default for when it is missing. -/
def withDefault {α : Type} (default : α) (decode : Json → Option α) : Entry → Option α
  | .value json => decode json
  | .missing | .cutOff => some default

/-- A flag. -/
def asBool? : Json → Option Bool
  | .bool value => some value
  | _ => none

/-- A text. -/
def asText? : Json → Option String
  | .string value => some value
  | _ => none

/-- A natural number below a bound. -/
def asNatBelow? (bound : Nat) : Json → Option Nat
  | .number (.integer value) =>
      if 0 ≤ value ∧ value < bound then some value.toNat else none
  | _ => none

/-- A natural number of 64 bits. -/
def asNat? : Json → Option Nat := asNatBelow? (Nat.pow 2 64)

/-- Any number, rounded to binary64 where it is an integer. -/
def asReal? : Json → Option Binary64
  | .number (.integer value) =>
      some (.ofRatio (value < 0) value.natAbs 1)
  | .number (.real value) => some value
  | _ => none

/-- A list whose items are all read. -/
def asList? {α : Type} (decode : Json → Option α) : Json → Option (List α)
  | .array items => items.mapM decode
  | _ => none

/-- A null or a value. -/
def nullable {α : Type} (decode : Json → Option α) : Json → Option (Option α)
  | .null => some none
  | json => (decode json).map some

/-- A bare name: a text, or an object whose only field has the name as its key and null as its
value. -/
def asName? : Json → Option String
  | .string name => some name
  | .object [(name, .null)] => some name
  | _ => none

/-- A bare name, whose value in an object may also be an empty object. -/
def asEmptyName? : Json → Option String
  | .object [(name, .object [])] => some name
  | json => asName? json

/-- What the value of a field may be written as. -/
structure Conversion where
  /-- A natural number of 64 bits. -/
  whole? : Json → Option Nat
  real? : Json → Option Binary64
  flag? : Json → Option Bool
  text? : Json → Option String
  /-- An array may hold more items than the record has fields. -/
  allowsSurplus : Bool

/-- Nothing is converted. -/
def Conversion.exact : Conversion where
  whole? := asNat?
  real? := asReal?
  flag? := asBool?
  text? := asText?
  allowsSurplus := false

/-- The entries of a record's fields, without the surplus of an array where it is allowed. -/
def Conversion.entries? (conversion : Conversion) (names : List String) (json : Json) :
    Option (List Entry) :=
  match json with
  | .array items =>
      let kept := if conversion.allowsSurplus then items.take names.length else items
      Json.entries? names (.array kept)
  | json => Json.entries? names json

end PodSizing.Json
