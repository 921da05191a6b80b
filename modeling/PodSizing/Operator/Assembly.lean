import PodSizing.Operator

/-!
# Assembling an operator

An operator is put together from a source of usage, a runtime and settings.  What is missing or
refused is named, the first of several.
-/

namespace PodSizing

/-- Why an operator cannot be put together. -/
inductive AssemblyError where
  | noProvider
  | noRuntime
  | settings (error : SettingsError)
  | zeroInterval
  deriving DecidableEq

/-- What is missing or wrong, in words. -/
def AssemblyError.message : AssemblyError → String
  | .noProvider => "Usage provider is required"
  | .noRuntime => "Resize runtime is required"
  | .settings error => error.message
  | .zeroInterval => "Reconcile interval must be non-zero"

/-- What an operator is put together from. -/
structure Assembly where
  hasProvider : Bool
  hasRuntime : Bool
  policy : Policy
  settings : ExecutorSettings
  /-- The time between the starts of two cycles. -/
  interval : Duration
  deriving DecidableEq

/-- The time between two cycles where none is given. -/
def Assembly.defaultInterval : Duration := .ofSeconds 30

/-- The operator, with nothing in its memory. -/
def Assembly.build (assembly : Assembly) (health : HealthRegistry) :
    Except AssemblyError Operator := do
  unless assembly.hasProvider do throw .noProvider
  unless assembly.hasRuntime do throw .noRuntime
  assembly.policy.check.mapError .settings
  assembly.settings.check.mapError .settings
  if assembly.interval = .zero then throw .zeroInterval
  pure ⟨assembly.policy, assembly.settings, .empty, health⟩

end PodSizing
