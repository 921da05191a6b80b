import PodSizing.Json.Reader
import PodSizing.Toml.Reader

/-!
# Configuration files

The format of a file follows from the extension of its name.  A file holds a table of settings;
one that is missing, has no known format, is malformed or holds something else is unreadable.

JSON and TOML are the formats described here.  An operator can also be given files in YAML, INI,
RON and JSON5, and a name without its extension, which it completes to that of a file that is
there.  These are left out, and count as unreadable here.
-/

namespace PodSizing.Configuration

/-- The formats of configuration files.  YAML, INI, RON and JSON5 are left out. -/
inductive Format where
  | json
  | toml
  deriving DecidableEq

/-- The extension of a file's name: what follows the last point of its last component, unless
nothing stands before that point.  A name without one is not completed: the search for a file
under the extensions of all formats is left out. -/
def extension? (path : String) : Option String :=
  let name := (path.toList.reverse.takeWhile (· != '/'))
  let reversed := name.takeWhile (· != '.')
  if name.length ≤ reversed.length + 1 then none
  else some (String.ofList reversed.reverse)

/-- The format with an extension, which has to be in small letters. -/
def Format.ofExtension? (extension : String) : Option Format :=
  if extension = "json" then some .json
  else if extension = "toml" then some .toml
  else none

/-- The value that a text in the format stands for. -/
def Format.read? : Format → String → Option Json
  | .json, text => Json.ofText? text
  | .toml, text => Toml.ofText? text

/-- The files that can be read: the text under a path. -/
abbrev Files := String → Option String

/-- The settings in a file, by name. -/
def fileSettings? (files : Files) (path : String) : Option (List (String × Json)) := do
  let text ← files path
  let format ← (extension? path).bind Format.ofExtension?
  match ← format.read? text with
  | .object fields => some fields
  | _ => none

example : extension? "etc/settings.d/pods.json" = some "json" := by decide +kernel
example : extension? "etc/settings.d/pods" = none := by decide +kernel

end PodSizing.Configuration
