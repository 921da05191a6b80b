import PodSizing.Configuration.Coercion
import PodSizing.Text.Lowercase
import PodSizing.Text.Pieces

/-!
# Settings in environment variables

A variable whose name starts with the program's prefix and an underscore, in letters of any case,
holds a setting.  In the rest of the name two underscores stand for the point of a path.  A value
that reads as a flag or a number is kept as one, also where a text is wanted; the values of the
namespace lists are otherwise split at commas.
-/

namespace PodSizing.Configuration

/-- The variables of the environment, by name. -/
abbrev Environment := List (String × String)

/-- Two underscores become a point. -/
def withPoints : List Char → List Char
  | '_' :: '_' :: rest => '.' :: withPoints rest
  | c :: rest => c :: withPoints rest
  | [] => []

/-- The path that a variable's name stands for, if the variable holds a setting. -/
def settingName? (namePrefix name : String) : Option String :=
  let start := Text.lowercase (namePrefix.toList ++ ['_'])
  let name := Text.lowercase name.toList
  if start.isPrefixOf name then some (String.ofList (withPoints (name.drop start.length)))
  else none

/-- The settings whose values are lists of names. -/
def listSettings : List String :=
  ["namespaces.include", "namespaces.exclude", "namespaces.system"]

/-- The literal that a value reads as: a flag in letters of any case, a whole number of 64 bits
with a sign, or any other number. -/
def literal? (value : String) : Option Json :=
  let word := String.ofList (value.toList.map Char.toLower)
  if word = "true" then some (.bool true)
  else if word = "false" then some (.bool false)
  else
    match (Numeral.integer? value.toList).filter fitsSigned with
    | some integer => some (.number (.integer integer))
    | none => (Binary64.ofText? value).map fun real => .number (.real real)

/-- The names in a value, with a comma between two of them. -/
def names (value : String) : List String :=
  (Text.pieces ',' value.toList).map String.ofList

/-- The value of the setting with the given name. -/
def settingValue (name value : String) : Json :=
  match literal? value with
  | some literal => literal
  | none =>
      if listSettings.contains name then .array ((names value).map .string)
      else .string value

/-- The setting that a variable holds. -/
def setting? (namePrefix : String) (entry : String × String) : Option (String × Json) :=
  (settingName? namePrefix entry.1).map fun name => (name, settingValue name entry.2)

/-- The settings in the environment. -/
def settings (namePrefix : String) (environment : Environment) : List (String × Json) :=
  environment.filterMap (setting? namePrefix)

end PodSizing.Configuration
