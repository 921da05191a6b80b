import PodSizing.Configuration.Path

/-!
# Layers of settings

The settings of several sources are laid over each other in one tree.  Tables are merged key by
key; anything else, a list included, takes the place of what was there.  Keys are kept in small
letters, which only changes the letters of ASCII: no setting's name holds another letter.  A path
with a position that no list can have lays nothing.
-/

namespace PodSizing.Configuration

/-- The form in which a key is kept. -/
def keyForm (key : String) : String :=
  String.ofList (key.toList.map Char.toLower)

/-- The fields of a table; anything else makes way for an empty table. -/
def fieldsOf : Json → List (String × Json)
  | .object fields => fields
  | _ => []

/-- The items of a list; anything else makes way for an empty list. -/
def itemsOf : Json → List Json
  | .array items => items
  | _ => []

mutual

/-- What stands in a place after a value has been laid over what was there. -/
def merge (old : Option Json) : Json → Json
  | .object fields => mergeFields (old.getD (.object [])) fields
  | value => value

/-- Lays the fields of a table over a value, one after the other. -/
def mergeFields (tree : Json) : List (String × Json) → Json
  | [] => tree
  | (key, value) :: rest =>
      let fields := fieldsOf tree
      let key := keyForm key
      mergeFields (.object (Json.insertField key (merge (fields.lookup key) value) fields)) rest

end

/-- More items than any list can hold. -/
def itemLimit : Nat := Nat.pow 2 48

/-- The place of a position in a list of the given length.  There is none for a position that
lies before the first item or beyond the reach of lists. -/
def place? (index : Int) (length : Nat) : Option Nat :=
  if 0 ≤ index then (if index < itemLimit then some index.toNat else none)
  else if index.natAbs ≤ length then some (length - index.natAbs)
  else none

/-- Changes the item at a position, after filling the list up to there with nulls. -/
def changeItem? (index : Int) (change : Json → Option Json) (items : List Json) :
    Option (List Json) := do
  let place ← place? index items.length
  let filled := items ++ List.replicate (place + 1 - items.length) Json.null
  let item ← change (← filled[place]?)
  some (filled.set place item)

/-- What stands in a place after a value has been put where the steps lead.  Where a step needs a
table or a list and finds something else, it starts an empty one. -/
def assign? (value : Json) : List Step → Option Json → Option Json
  | [], old => some (merge old value)
  | .key name :: rest, old => do
      let fields := fieldsOf (old.getD .null)
      let key := keyForm name
      let inner ← assign? value rest (fields.lookup key)
      some (.object (Json.insertField key inner fields))
  | [.position index], old => do
      some (.array (← changeItem? index (fun _ => some value) (itemsOf (old.getD .null))))
  | .position index :: rest, old => do
      let change (item : Json) := assign? value rest (some item)
      some (.array (← changeItem? index change (itemsOf (old.getD .null))))

/-- The tree after a value has been put where the path leads. -/
def put? (path : Path) (value : Json) (tree : Json) : Option Json :=
  assign? value (.key path.first :: path.steps) (some tree)

/-- Lays the settings of a source over a tree.  Each stands under the text of a path. -/
def overlay? (tree : Json) (settings : List (String × Json)) : Option Json :=
  settings.foldlM (fun tree setting => put? (.ofText setting.1) setting.2 tree) tree

end PodSizing.Configuration
