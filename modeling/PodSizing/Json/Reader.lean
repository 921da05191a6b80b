import PodSizing.Json.Scalar
import PodSizing.Json.Shape
import PodSizing.Json.Writer
import PodSizing.Text.Quoted

/-!
# Reading JSON text

Reading a text by a shape gives the value with the fields that the shape names.  The first thing
that does not fit ends the reading, also where the text is malformed further on.

The readers of values take a number of steps that is given by the length of the text: each step
uses up a character, but for at most three steps at a time on the way into a value.
-/

namespace PodSizing.Json

/-- A number in a message. -/
def Number.described : Number → String
  | .integer value => "integer `" ++ toString value ++ "`"
  | .real value => "floating point `" ++ realText value ++ "`"

namespace Scan

/-- Refuses the value that comes next, which is read as far as it is no array or object. -/
def refuse {α : Type} (expected : String) : Scan α := do
  let found (kind : String) : Scan α := raise (.wrongType kind expected)
  match (← get).rest.head? with
  | some 'n' => word "null"; found "null"
  | some 't' => word "true"; found "boolean `true`"
  | some 'f' => word "false"; found "boolean `false`"
  | some '"' => drop; found ("string " ++ Text.quoted (← text))
  | some '[' => found "sequence"
  | some '\x7b' => found "map"
  | some c =>
      if c = '-' ∨ c.isDigit then found (← number).described else failNext .expectedValue
  | none => failNext .expectedValue

/-- The value of a number that has to be an integer within bounds. -/
def integerWithin (expected : String) (least most : Int) : Scan Json := do
  let number ← number
  match number with
  | .integer value =>
      if least ≤ value ∧ value ≤ most then pure (.number number)
      else raise (.wrongValue number.described expected)
  | .real _ => raise (.wrongType number.described expected)

/-! ### Arrays and objects -/

/-- The end of an array. -/
def endList : Scan Unit := do
  match ← peek with
  | some ']' => drop
  | some ',' => do
      drop
      match ← peek with
      | some ']' => failNext .trailingComma
      | _ => failNext .trailingText
  | some _ => failNext .trailingText
  | none => failNext .unclosedList

/-- The end of an object. -/
def endObject : Scan Unit := do
  match ← peek with
  | some '\x7d' => drop
  | some ',' => failNext .trailingComma
  | some _ => failNext .trailingText
  | none => failNext .unclosedObject

/-- What stands between the brackets of an array or object, which is one of at most so many that
are open at a time. -/
def nested {α : Type} (depth : Nat) (inner : Nat → Scan α) (ending : Scan Unit) : Scan α := do
  if depth ≤ 1 then failNext .tooDeep
  drop
  (inner (depth - 1)).ended ending

/-- Another item of an array follows. -/
def hasItem (first : Bool) : Scan Bool := do
  match ← peek with
  | none => failNext .unclosedList
  | some ']' => pure false
  | some c =>
      if first then pure true
      else if c ≠ ',' then failNext .expectedListEnd
      else
        drop
        match ← peek with
        | some ']' => failNext .trailingComma
        | some _ => pure true
        | none => failNext .missingValue

/-- The next key of an object, if another field follows. -/
def key? (first : Bool) : Scan (Option String) := do
  match ← peek with
  | none => failNext .unclosedObject
  | some '\x7d' => pure none
  | some c =>
      if !first then
        if c ≠ ',' then failNext .expectedObjectEnd
        drop
      match ← peek with
      | some '"' => drop; pure (some (← text))
      | some '\x7d' => failNext .trailingComma
      | some _ => failNext .keyNotText
      | none => failNext .missingValue

/-- The colon after a key. -/
def colon : Scan Unit := do
  match ← peek with
  | some ':' => drop
  | some _ => failNext .expectedColon
  | none => failNext .unclosedObject

/-! ### Passing over values -/

/-- An array or object that is open. -/
inductive Bracket where
  | list
  | object
  deriving DecidableEq

/-- The bracket that closes what this one opens. -/
def Bracket.closing : Bracket → Char
  | .list => ']'
  | .object => '\x7d'

/-- The flaw of a text that ends before the bracket is closed. -/
def Bracket.unclosed : Bracket → Flaw
  | .list => .unclosedList
  | .object => .unclosedObject

/-- The flaw of a value that neither a comma nor the closing bracket follows. -/
def Bracket.unended : Bracket → Flaw
  | .list => .expectedListEnd
  | .object => .expectedObjectEnd

/-- Passes over what stands before a value: in an object its key. -/
def Bracket.skipKey : Bracket → Scan Unit
  | .list => pure ()
  | .object => do
      match ← peek with
      | some '"' => drop; skipText; colon
      | some _ => failNext .keyNotText
      | none => failNext .unclosedObject

mutual

/-- Passes over a value and what follows it in the arrays and objects that are open, innermost
first. -/
def skipValue : Nat → List Bracket → Scan Unit
  | 0, _ => failNext .missingValue
  | steps + 1, brackets => do
      match ← peek with
      | none => failNext .missingValue
      | some 'n' => word "null"; skipRest steps brackets
      | some 't' => word "true"; skipRest steps brackets
      | some 'f' => word "false"; skipRest steps brackets
      | some '"' => drop; skipText; skipRest steps brackets
      | some '[' => drop; skipFirst steps .list brackets
      | some '\x7b' => drop; skipFirst steps .object brackets
      | some c =>
          if c = '-' ∨ c.isDigit then
            let _ ← numberText false
            skipRest steps brackets
          else failNext .expectedValue

/-- Passes over the inside of an array or object that has just been opened. -/
def skipFirst : Nat → Bracket → List Bracket → Scan Unit
  | 0, _, _ => failNext .missingValue
  | steps + 1, bracket, brackets => do
      match ← peek with
      | none => failNext bracket.unclosed
      | some c =>
          if c = bracket.closing then
            drop
            skipRest steps brackets
          else
            bracket.skipKey
            skipValue steps (bracket :: brackets)

/-- Passes over what follows a value. -/
def skipRest : Nat → List Bracket → Scan Unit
  | _, [] => pure ()
  | 0, _ :: _ => failNext .missingValue
  | steps + 1, bracket :: brackets => do
      match ← peek with
      | none => failNext bracket.unclosed
      | some c =>
          if c = ',' then
            drop
            bracket.skipKey
            skipValue steps (bracket :: brackets)
          else if c = bracket.closing then
            drop
            skipRest steps brackets
          else failNext bracket.unended

end

/-! ### Wanted values -/

/-- Stops unless all fields are there that have to be. -/
def checkComplete (shape : Shape) (read : List (String × Json)) : Scan Unit :=
  match shape with
  | .record _ fields =>
      fields.forM fun (name, mayMiss, _) =>
        if mayMiss ∨ (read.lookup name).isSome then pure () else raise (.missingField name)
  | _ => pure ()

mutual

/-- Reads a value of a shape, in which so many arrays and objects may be open at a time. -/
def value : Nat → Nat → Shape → Scan Json
  | 0, _, _ => failNext .missingValue
  | steps + 1, depth, shape => do
      match shape, ← peek with
      | .nullable inner, next =>
          if next = some 'n' then
            word "null"
            pure .null
          else value steps depth inner
      | .exactly expected, _ =>
          match ← value steps depth .text with
          | .string found =>
              if found = expected then pure (.string found)
              else raise (.wrongValue ("string " ++ Text.quoted found) expected)
          | json => pure json
      | _, none => failNext .missingValue
      | shape, some c => placed (valueFrom steps depth shape c)

/-- Reads a value that starts with a character. -/
def valueFrom : Nat → Nat → Shape → Char → Scan Json
  | 0, _, _, _ => failNext .missingValue
  | steps + 1, depth, shape, c =>
      let isNumber := c = '-' ∨ c.isDigit
      let fields := fun depth => fields steps depth shape [] true
      match shape, c with
      | .any, 'n' => do word "null"; pure .null
      | .any, 't' | .flag, 't' => do word "true"; pure (.bool true)
      | .any, 'f' | .flag, 'f' => do word "false"; pure (.bool false)
      | .any, '"' | .text, '"' => do drop; pure (.string (← text))
      | .any, '[' => nested depth (fun depth => items steps depth .any [] true) endList
      | .list item, '[' => nested depth (fun depth => items steps depth item [] true) endList
      | .any, '\x7b' | .map _, '\x7b' | .object .., '\x7b' | .record .., '\x7b' =>
          nested depth fields endObject
      | .record name inner, '[' =>
          nested depth (fun depth => entries steps depth name inner.length 0 inner) endList
      | .object name _, '[' =>
          nested depth (fun _ => raise (.wrongType "sequence" name)) endList
      | .checked _ fault?, '"' => do
          drop
          let text ← text
          match fault? text with
          | none => pure (.string text)
          | some reason => raise (.malformed reason)
      | .any, _ => if isNumber then return .number (← number) else failNext .expectedValue
      | .integer name least most, _ =>
          if isNumber then integerWithin name least most else refuse name
      | shape, _ => refuse shape.expected

/-- Reads the items of an array, given those before in reverse. -/
def items : Nat → Nat → Shape → List Json → Bool → Scan Json
  | 0, _, _, _, _ => failNext .missingValue
  | steps + 1, depth, shape, reversed, first => do
      if ← hasItem first then
        let item ← value steps depth shape
        items steps depth shape (item :: reversed) false
      else pure (.array reversed.reverse)

/-- Reads the fields of an object, given those before. -/
def fields : Nat → Nat → Shape → List (String × Json) → Bool → Scan Json
  | 0, _, _, _, _ => failNext .missingValue
  | steps + 1, depth, shape, read, first => do
      match ← key? first with
      | none =>
          checkComplete shape read
          pure (.object read)
      | some key =>
          match shape.fieldShape? key with
          | none =>
              colon
              skipValue steps []
              fields steps depth shape read false
          | some inner =>
              if shape.isStrict ∧ (read.lookup key).isSome then raise (.repeatedField key)
              colon
              let json ← value steps depth inner
              fields steps depth shape (insertField key json read) false

/-- Reads the fields of a record from an array, from the one at a position on. -/
def entries : Nat → Nat → String → Nat → Nat → List (String × Bool × Shape) → Scan Json
  | 0, _, _, _, _, _ => failNext .missingValue
  | _, _, _, _, _, [] => pure (.object [])
  | steps + 1, depth, name, length, position, (key, mayMiss, shape) :: rest => do
      if ← hasItem (position == 0) then
        let json ← value steps depth shape
        match ← entries steps depth name length (position + 1) rest with
        | .object fields => pure (.object (insertField key json fields))
        | json => pure json
      else if mayMiss then entries steps depth name length (position + 1) rest
      else raise (.wrongLength position (recordLength name length))

end

/-- Reads a value that takes up the whole text. -/
def whole (steps : Nat) (shape : Shape) : Scan Json := do
  let json ← value steps 128 shape
  match ← peek with
  | some _ => failNext .trailingText
  | none => pure json

end Scan

/-- The value of a shape that a text stands for. -/
def Shape.ofText (shape : Shape) (text : String) : Except Fault Json :=
  let chars := text.toList
  (Scan.whole (4 * chars.length + 8) shape ⟨chars, .start⟩).1

/-- How a value of a type stands in JSON text. -/
structure Form (α : Type) where
  shape : Shape
  ofJson? : Json → Option α

/-- The value that a text stands for. -/
def Form.read {α : Type} (form : Form α) (text : String) : Except Fault α := do
  match form.ofJson? (← form.shape.ofText text) with
  | some value => .ok value
  | none => .error ⟨.wrongValue "value" form.shape.expected, none⟩

/-- The value that a text stands for.  A key that is repeated in an object keeps its last value,
and at most 127 arrays and objects may be open at a time. -/
def ofText? (text : String) : Option Json :=
  (Shape.any.ofText text).toOption

end PodSizing.Json
