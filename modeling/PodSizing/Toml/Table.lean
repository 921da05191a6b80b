import PodSizing.Json

/-!
# Tables in TOML

A table grows while a document is read, and how it came about says what may still be added: a
table is opened by a header at most once, and the keys of a line may not reach into a table that a
header has opened.  A value written in one piece, inline tables and arrays included, is closed.
-/

namespace PodSizing.Toml

/-- How a table came about. -/
inductive Origin where
  /-- By a header of its own. -/
  | header
  /-- On the way of a header to a table inside it. -/
  | implied
  /-- By the dotted keys of a line. -/
  | dotted
  deriving DecidableEq

/-- What stands under a key. -/
inductive Node where
  | value (value : Json)
  | table (origin : Origin) (fields : List (String × Node))
  /-- An array of tables; the last one is still growing. -/
  | tables (earlier : List (List (String × Node))) (last : List (String × Node))

/-- What stands in a table. -/
abbrev Fields := List (String × Node)

/-- Puts another node under a key that is there. -/
def replaceField (key : String) (node : Node) (fields : Fields) : Fields :=
  fields.map fun field => if field.1 = key then (key, node) else field

/-- Changes the table to which keys lead from the given one; tables that are missing on the way
are made, and of an array of tables the last counts. -/
def changeAt? (change : Fields → Option Fields) : List String → Fields → Option Fields
  | [], fields => change fields
  | key :: rest, fields =>
      match fields.lookup key with
      | none => do
          let inner ← changeAt? change rest []
          some (fields ++ [(key, .table .implied inner)])
      | some (.table origin inner) => do
          let inner ← changeAt? change rest inner
          some (replaceField key (.table origin inner) fields)
      | some (.tables earlier last) => do
          let last ← changeAt? change rest last
          some (replaceField key (.tables earlier last) fields)
      | some (.value _) => none

/-- Opens the table under a key; an implied one is opened as it is. -/
def openTable? (key : String) (fields : Fields) : Option Fields :=
  match fields.lookup key with
  | none => some (fields ++ [(key, .table .header [])])
  | some (.table .implied inner) => some (replaceField key (.table .header inner) fields)
  | some _ => none

/-- Opens another table of the array of tables under a key. -/
def openItem? (key : String) (fields : Fields) : Option Fields :=
  match fields.lookup key with
  | none => some (fields ++ [(key, .tables [] [])])
  | some (.tables earlier last) =>
      some (replaceField key (.tables (earlier ++ [last]) []) fields)
  | some _ => none

/-- Puts a value under dotted keys.  The table that receives it has to be the given one or one
that came about by dotted keys. -/
def insert? (value : Json) (mayReceive : Bool) : List String → Fields → Option Fields
  | [], _ => none
  | [key], fields =>
      if mayReceive ∧ (fields.lookup key).isNone then some (fields ++ [(key, .value value)])
      else none
  | key :: rest, fields =>
      match fields.lookup key with
      | none => do
          let inner ← insert? value true rest []
          some (fields ++ [(key, .table .dotted inner)])
      | some (.table .header _) => none
      | some (.table origin inner) => do
          let inner ← insert? value (origin == .dotted) rest inner
          some (replaceField key (.table origin inner) fields)
      | some (.tables earlier last) => do
          let last ← insert? value false rest last
          some (replaceField key (.tables earlier last) fields)
      | some (.value _) => none

mutual

/-- The finished value of a node. -/
def Node.toJson : Node → Json
  | .value value => value
  | .table _ fields => .ofFields (jsonFields fields)
  | .tables earlier last => .array (jsonTables earlier ++ [.ofFields (jsonFields last)])

/-- The fields of a table in JSON, in their order. -/
def jsonFields : List (String × Node) → List (String × Json)
  | [] => []
  | (key, node) :: rest => (key, node.toJson) :: jsonFields rest

/-- A list of tables in JSON. -/
def jsonTables : List (List (String × Node)) → List Json
  | [] => []
  | fields :: rest => .ofFields (jsonFields fields) :: jsonTables rest

end

end PodSizing.Toml
