import PodSizing.Dimension
import PodSizing.Duration

/-!
# Failures

How a call of the runtime can fail, and how a whole cycle can.
-/

namespace PodSizing

/-- Why a call of the runtime failed. -/
inductive RuntimeError where
  /-- The runtime refuses the dimensions as such; the others may be tried again alone. -/
  | rejected (dimensions : List Dimension) (reason : String)
  | failed (reason : String)
  /-- No answer came in time. -/
  | timeout (limit : Duration)
  deriving DecidableEq

/-- The text of a failed call. -/
def RuntimeError.message : RuntimeError → String
  | .rejected dimensions reason => "rejected " ++ Dimension.listText dimensions ++ ": " ++ reason
  | .failed reason => "apply failed: " ++ reason
  | .timeout limit => "apply timed out after " ++ limit.toText

/-- Why a cycle failed as a whole. -/
inductive CycleError where
  /-- The containers to look at could not be listed. -/
  | targetsUnavailable (reason : String)
  /-- There are containers to look at, and the usage of none of them could be read. -/
  | noSamples (targets : Nat)
  deriving DecidableEq

/-- The text of a failed cycle. -/
def CycleError.message : CycleError → String
  | .targetsUnavailable reason => "could not list target containers: " ++ reason
  | .noSamples targets =>
      "no usage samples obtained for any of " ++ toString targets ++ " tracked containers"

end PodSizing
