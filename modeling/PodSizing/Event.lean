import PodSizing.Binary64

/-!
# Log events

An event has a severity, a message and named fields in the order in which they are given.
-/

namespace PodSizing

/-- How serious an event is. -/
inductive Severity where
  | trace
  | debug
  | info
  | warn
  | error
  deriving DecidableEq

namespace Severity

/-- The severities in rising order. -/
def rank : Severity → Nat
  | .trace => 0
  | .debug => 1
  | .info => 2
  | .warn => 3
  | .error => 4

/-- The name in the log. -/
def label : Severity → String
  | .trace => "TRACE"
  | .debug => "DEBUG"
  | .info => "INFO"
  | .warn => "WARN"
  | .error => "ERROR"

/-- The severity of a name in small letters. -/
def ofName? : String → Option Severity
  | "trace" => some .trace
  | "debug" => some .debug
  | "info" => some .info
  | "warn" => some .warn
  | "error" => some .error
  | _ => none

end Severity

/-- The value of a field of an event. -/
inductive FieldValue where
  | text (value : String)
  | natural (value : Nat)
  | flag (value : Bool)
  | real (value : Binary64)
  deriving DecidableEq

/-- One entry of the log. -/
structure Event where
  severity : Severity
  message : String
  fields : List (String × FieldValue)
  deriving DecidableEq

/-- The events that a log of the given severity shows. -/
def Event.shown (least : Severity) (events : List Event) : List Event :=
  events.filter fun event => least.rank ≤ event.severity.rank

end PodSizing
