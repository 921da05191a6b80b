import PodSizing.NamespaceFilter
import PodSizing.Policy

/-!
# Operator settings

Everything that is set for a run of the operator: its name, where its endpoints listen, the time
between cycles, and the settings of its parts.
-/

namespace PodSizing

/-- What is set for a run of the operator. -/
structure OperatorSettings where
  /-- The name that the operator's own containers and its events carry. -/
  name : String
  /-- Where the health and metrics endpoints listen. -/
  apiPort : Nat
  /-- The seconds from the start of one cycle to the start of the next. -/
  resizeIntervalSeconds : Nat
  policy : Policy
  executor : ExecutorSettings
  namespaces : NamespaceFilter
  deriving DecidableEq

namespace OperatorSettings

/-- A cycle every thirty seconds, endpoints that listen at 8080. -/
def default : OperatorSettings where
  name := "right-sizer"
  apiPort := 8080
  resizeIntervalSeconds := 30
  policy := .default
  executor := .default
  namespaces := .default

/-- Accepts the settings or gives the first reason against them: the policy's, then the
executor's, then that no time lies between two cycles. -/
def check (settings : OperatorSettings) : Except SettingsError Unit := do
  settings.policy.check
  settings.executor.check
  if settings.resizeIntervalSeconds = 0 then throw (.zeroSize "resize_interval_secs")

end OperatorSettings

end PodSizing
