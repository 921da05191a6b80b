import PodSizing.Binary64

/-!
# JSON values

A number is an integer or a binary64 number, and the two are told apart: `1` is an integer, `1.0`
is not.  The fields of an object are kept sorted by key, and a key stands at most once:
`insertField` replaces the value of a key that is there already.
-/

namespace PodSizing

/-- A JSON number. -/
inductive Json.Number where
  | integer (value : Int)
  | real (value : Binary64)
  deriving DecidableEq

/-- A JSON value. -/
inductive Json where
  | null
  | bool (value : Bool)
  | number (value : Json.Number)
  | string (value : String)
  | array (items : List Json)
  | object (fields : List (String × Json))

namespace Json

instance : Inhabited Json := ⟨null⟩

/-- Puts a value under a key, in the place that the order of keys gives it. -/
def insertField (key : String) (value : Json) :
    List (String × Json) → List (String × Json)
  | [] => [(key, value)]
  | (key', value') :: rest =>
      if key < key' then (key, value) :: (key', value') :: rest
      else if key = key' then (key, value) :: rest
      else (key', value') :: insertField key value rest

/-- The fields in the order of their keys; of two with one key the later counts. -/
def sortFields (fields : List (String × Json)) : List (String × Json) :=
  fields.foldl (fun sorted field => insertField field.1 field.2 sorted) []

/-- The object with the given fields. -/
def ofFields (fields : List (String × Json)) : Json := .object (sortFields fields)

/-- A natural number. -/
def ofNat (value : Nat) : Json := .number (.integer value)

/-- A list of values. -/
def ofList {α : Type} (encode : α → Json) (items : List α) : Json :=
  .array (items.map encode)

/-- A value that may be missing. -/
def ofOption {α : Type} (encode : α → Json) : Option α → Json
  | none => .null
  | some value => encode value

/-- The value under a key of an object. -/
def field? (json : Json) (key : String) : Option Json :=
  match json with
  | .object fields => fields.lookup key
  | _ => none

theorem lookup_insertField_self (key : String) (value : Json) (fields : List (String × Json)) :
    (insertField key value fields).lookup key = some value := by
  induction fields with
  | nil => simp [insertField]
  | cons field rest ih =>
      obtain ⟨key', value'⟩ := field
      simp only [insertField]
      split
      · simp
      · split
        · simp
        · rename_i ne
          simp [List.lookup_cons, beq_eq_false_iff_ne.2 ne, ih]

theorem lookup_insertField_ne {key other : String} (ne : other ≠ key) (value : Json)
    (fields : List (String × Json)) :
    (insertField key value fields).lookup other = fields.lookup other := by
  induction fields with
  | nil => simp [insertField, List.lookup_cons, beq_eq_false_iff_ne.2 ne]
  | cons field rest ih =>
      obtain ⟨key', value'⟩ := field
      simp only [insertField]
      split
      · simp [List.lookup_cons, beq_eq_false_iff_ne.2 ne]
      · split
        · rename_i eq
          subst eq
          simp [List.lookup_cons, beq_eq_false_iff_ne.2 ne]
        · simp [List.lookup_cons, ih]

end Json

end PodSizing
