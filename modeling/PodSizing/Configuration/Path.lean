import PodSizing.Json
import PodSizing.Numeral

/-!
# Paths into settings

A path names a place in a tree of settings: a first key, then keys of tables, each after a point,
and positions in lists, each between brackets, as in `policy.cpu.max` or `include[0]`.  A position
below zero counts from the end of the list.
-/

namespace PodSizing.Configuration

/-- One step down from a place in the tree. -/
inductive Step where
  | key (name : String)
  | position (index : Int)
  deriving DecidableEq

/-- A place in a tree of settings. -/
structure Path where
  first : String
  steps : List Step
  deriving DecidableEq

/-- The characters of keys in a path. -/
def isKeyChar (c : Char) : Bool :=
  c.isAlphanum || c == ' ' || c == '_' || c == '-'

/-- The characters that may stand around an index within its brackets. -/
def isIndexBlank (c : Char) : Bool := c == ' ' || c == '\t'

/-- The position between two brackets, possibly with blanks around it. -/
def index? (text : List Char) : Option Int :=
  let signed := text.dropWhile isIndexBlank
  let (negative, unsigned) := match signed with
    | '-' :: rest => (true, rest)
    | _ => (false, signed)
  let digits := unsigned.takeWhile Char.isDigit
  if digits.isEmpty || !(unsigned.dropWhile Char.isDigit).all isIndexBlank then none
  else
    let value := Numeral.digitsValue digits
    if value < Nat.pow 2 63 ∨ (negative ∧ value = Nat.pow 2 63) then
      some (if negative then -value else value)
    else none

/-- The steps after the first key. -/
def steps? : List Char → Option (List Step)
  | [] => some []
  | '.' :: rest =>
      let name := rest.takeWhile isKeyChar
      if name.isEmpty then none
      else (steps? (rest.dropWhile isKeyChar)).map (.key (String.ofList name) :: ·)
  | '[' :: rest =>
      let after := rest.dropWhile (· != ']')
      if after.isEmpty then none
      else
        match index? (rest.takeWhile (· != ']')) with
        | some index => (steps? (after.drop 1)).map (.position index :: ·)
        | none => none
  | _ => none
termination_by text => text.length
decreasing_by
  · have := (List.dropWhile_sublist isKeyChar (l := rest)).length_le
    simp only [List.length_cons]
    omega
  · have := (List.dropWhile_sublist (· != ']') (l := rest)).length_le
    simp only [List.length_drop, List.length_cons]
    omega

/-- The path that a text names. -/
def Path.ofText? (text : String) : Option Path :=
  let chars := text.toList
  let first := chars.takeWhile isKeyChar
  if first.isEmpty then none
  else (steps? (chars.dropWhile isKeyChar)).map (⟨String.ofList first, ·⟩)

/-- The path that a text names; a text that names none is a single key. -/
def Path.ofText (text : String) : Path :=
  (ofText? text).getD ⟨text, []⟩

example : Path.ofText? "policy.cpu[-1]" =
    some ⟨"policy", [.key "cpu", .position (-1)]⟩ := by decide +kernel
example : Path.ofText? "policy." = none := by decide +kernel

end PodSizing.Configuration
