import PodSizing.Json.Record
import PodSizing.NamespaceFilter
import PodSizing.Policy

/-!
# Settings in JSON

The readers of policies, executor settings and namespace filters, and the writers of the last
two.  Every field of them has a
default, so an empty object and an empty array stand for the defaults.  A conversion says what
the value of a field may be written as; `ofJson?` converts nothing.
-/

namespace PodSizing

open Json

/-- Both bounds have to be given. -/
def Bounds.ofJsonWith? (conversion : Conversion) (json : Json) : Option Bounds := do
  match ← conversion.entries? ["min", "max"] json with
  | [min, max] =>
      some ⟨← required conversion.whole? min, ← required conversion.whole? max⟩
  | _ => none

/-- The policy in a record.  The bounds of a dimension are replaced as a whole. -/
def Policy.ofJsonWith? (conversion : Conversion) (json : Json) : Option Policy := do
  let names :=
    ["upper_threshold_pct", "lower_threshold_pct", "cpu", "memory", "cooldown_secs",
     "step_multiplier"]
  match ← conversion.entries? names json with
  | [upper, lower, cpu, memory, cooldown, multiplier] =>
      let base := Policy.default
      let bounds? := Bounds.ofJsonWith? conversion
      some
        { upperThreshold := ← withDefault base.upperThreshold conversion.real? upper
          lowerThreshold := ← withDefault base.lowerThreshold conversion.real? lower
          bounds :=
            ⟨← withDefault base.bounds.cpu bounds? cpu,
             ← withDefault base.bounds.memory bounds? memory⟩
          cooldownSeconds := ← withDefault base.cooldownSeconds conversion.whole? cooldown
          stepMultiplier := ← withDefault base.stepMultiplier conversion.real? multiplier }
  | _ => none

/-- The policy in a record whose values are not converted. -/
def Policy.ofJson? : Json → Option Policy := ofJsonWith? .exact

/-- The settings in a record.  A deadline that is null is none. -/
def ExecutorSettings.ofJsonWith? (conversion : Conversion) (json : Json) :
    Option ExecutorSettings := do
  let names :=
    ["batch_size", "concurrency", "apply_timeout_ms", "cycle_deadline_secs",
     "delay_between_batches_ms", "dry_run"]
  match ← conversion.entries? names json with
  | [batchSize, concurrency, timeout, deadline, delay, dryRun] =>
      let base := ExecutorSettings.default
      let whole? := conversion.whole?
      some
        { batchSize := ← withDefault base.batchSize whole? batchSize
          concurrency := ← withDefault base.concurrency whole? concurrency
          applyTimeoutMillis := ← withDefault base.applyTimeoutMillis whole? timeout
          cycleDeadlineSeconds :=
            ← withDefault base.cycleDeadlineSeconds (nullable whole?) deadline
          batchDelayMillis := ← withDefault base.batchDelayMillis whole? delay
          dryRun := ← withDefault base.dryRun conversion.flag? dryRun }
  | _ => none

/-- The settings in a record whose values are not converted. -/
def ExecutorSettings.ofJson? : Json → Option ExecutorSettings := ofJsonWith? .exact

/-- An object with all settings; where there is no deadline, it is null. -/
def ExecutorSettings.toJson (settings : ExecutorSettings) : Json :=
  .ofFields
    [("batch_size", .ofNat settings.batchSize),
     ("concurrency", .ofNat settings.concurrency),
     ("apply_timeout_ms", .ofNat settings.applyTimeoutMillis),
     ("cycle_deadline_secs", .ofOption .ofNat settings.cycleDeadlineSeconds),
     ("delay_between_batches_ms", .ofNat settings.batchDelayMillis),
     ("dry_run", .bool settings.dryRun)]

/-- The filter in a record of three lists.  A list that is given replaces its default. -/
def NamespaceFilter.ofJsonWith? (conversion : Conversion) (json : Json) :
    Option NamespaceFilter := do
  match ← conversion.entries? ["include", "exclude", "system"] json with
  | [included, excluded, system] =>
      let base := NamespaceFilter.default
      let names? := asList? conversion.text?
      some
        { included := ← withDefault base.included names? included
          excluded := ← withDefault base.excluded names? excluded
          system := ← withDefault base.system names? system }
  | _ => none

/-- The filter in a record whose values are not converted. -/
def NamespaceFilter.ofJson? : Json → Option NamespaceFilter := ofJsonWith? .exact

/-- An object with the three lists of names. -/
def NamespaceFilter.toJson (filter : NamespaceFilter) : Json :=
  .ofFields
    [("include", .ofList .string filter.included),
     ("exclude", .ofList .string filter.excluded),
     ("system", .ofList .string filter.system)]

end PodSizing
