import PodSizing.Event
import PodSizing.Json

/-!
# Events in JSON

The JSON form of an entry of the log.
-/

namespace PodSizing

/-- Each kind of value as the JSON value of the same kind. -/
def FieldValue.toJson : FieldValue → Json
  | .text value => .string value
  | .natural value => .ofNat value
  | .flag value => .bool value
  | .real value => .number (.real value)

/-- An object with the level, the message and an object of the fields. -/
def Event.toJson (event : Event) : Json :=
  .ofFields
    [("level", .string event.severity.label), ("message", .string event.message),
     ("fields", .ofFields (event.fields.map fun (name, value) => (name, value.toJson)))]

end PodSizing
