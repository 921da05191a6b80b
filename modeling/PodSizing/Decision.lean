import PodSizing.Container
import PodSizing.Event
import PodSizing.Policy

/-!
# Decisions

What becomes of one dimension of a container.  Its usage is measured against what is configured;
beyond a threshold the dimension is resized to the usage times the policy's multiplier, moved into
the policy's bounds.  A value that does not lie strictly in the direction of the verdict is no
change at all, and neither is a dimension with nothing configured.
-/

namespace PodSizing

/-- Which way a dimension is to go. -/
inductive Verdict where
  | scaleUp
  | scaleDown
  | noChange
  deriving DecidableEq

namespace Verdict

/-- The name of a verdict in JSON and in events. -/
def name : Verdict → String
  | .scaleUp => "scale_up"
  | .scaleDown => "scale_down"
  | .noChange => "no_change"

/-- The verdict with the given name. -/
def ofName? : String → Option Verdict
  | "scale_up" => some .scaleUp
  | "scale_down" => some .scaleDown
  | "no_change" => some .noChange
  | _ => none

theorem ofName?_name (verdict : Verdict) : ofName? verdict.name = some verdict := by
  cases verdict <;> rfl

/-- The move from one value to another goes strictly in the direction of the verdict. -/
def agrees (verdict : Verdict) (current target : Nat) : Bool :=
  match verdict with
  | .scaleUp => current < target
  | .scaleDown => target < current
  | .noChange => false

/-- The direction of a move. -/
def ofMove (current target : Nat) : Verdict :=
  if current < target then .scaleUp else if target < current then .scaleDown else .noChange

end Verdict

/-- What becomes of one dimension of a container. -/
structure Decision where
  dimension : Dimension
  verdict : Verdict
  /-- What is configured now. -/
  current : Nat
  /-- What is to be configured. -/
  target : Nat
  /-- Usage as a part of what is configured now. -/
  utilization : Binary64
  deriving DecidableEq

namespace Decision

/-- The dimension stays as it is. -/
def keep (dimension : Dimension) (current : Nat) (utilization : Binary64) : Decision :=
  ⟨dimension, .noChange, current, current, utilization⟩

/-- The dimension is to be resized. -/
def isChange (decision : Decision) : Bool :=
  decision.verdict != .noChange

/-- The target is lower than what is configured now. -/
def isDecrease (decision : Decision) : Bool :=
  decision.target < decision.current

@[simp]
theorem isChange_keep (dimension : Dimension) (current : Nat) (utilization : Binary64) :
    (keep dimension current utilization).isChange = false := rfl

/-- Usage as a part of what is configured. -/
def utilizationOf (usage current : Nat) : Binary64 :=
  .ofNat usage / .ofNat current

/-- Usage in percent of what is configured.  The usage is scaled before the division, so that a
whole number of percent is exact. -/
def utilizationPercent (usage current : Nat) : Binary64 :=
  .ofNat usage * .ofNat 100 / .ofNat current

end Decision

namespace Policy

/-- The verdict on a usage measured against what is configured.  A usage on a threshold changes
nothing. -/
def verdict (policy : Policy) (usage current : Nat) : Verdict :=
  let percent := Decision.utilizationPercent usage current
  if policy.upperThreshold.lt percent then .scaleUp
  else if percent.lt policy.lowerThreshold then .scaleDown
  else .noChange

/-- The largest amount that a dimension can have. -/
def maxAmount : Nat := Nat.pow 2 64 - 1

/-- The value to which a usage resizes a dimension: the product with the multiplier, rounded and
moved into the bounds.  There is none between inverted bounds. -/
def stepTarget? (policy : Policy) (dimension : Dimension) (usage : Nat) : Option Nat :=
  (policy.bounds.get dimension).clamp?
    ((Binary64.ofNat usage * policy.stepMultiplier).roundToNat maxAmount)

/-- The decision for one dimension.  There is none when a target is needed and the bounds of the
dimension are inverted. -/
def decide? (policy : Policy) (dimension : Dimension) (usage : Nat) (allocation : Allocation) :
    Option Decision :=
  let current := allocation.baseline
  if current = 0 then some (.keep dimension 0 (.zero false))
  else
    let utilization := Decision.utilizationOf usage current
    match policy.verdict usage current with
    | .noChange => some (.keep dimension current utilization)
    | verdict => do
        let target ← policy.stepTarget? dimension usage
        if verdict.agrees current target then
          some ⟨dimension, verdict, current, target, utilization⟩
        else
          some (.keep dimension current utilization)

/-- The event for a target that does not lie in the direction of the verdict. -/
def decideEvents (policy : Policy) (dimension : Dimension) (usage : Nat)
    (allocation : Allocation) : List Event :=
  let current := allocation.baseline
  if current = 0 then []
  else
    match policy.verdict usage current, policy.stepTarget? dimension usage with
    | .noChange, _ | _, none => []
    | verdict, some target =>
        if verdict.agrees current target then []
        else
          [{ severity := .trace
             message := "Clamped target does not move in verdict direction"
             fields :=
               [("dimension", .text dimension.name), ("current", .natural current),
                ("target", .natural target)] }]

end Policy

end PodSizing
