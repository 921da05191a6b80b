import PodSizing.Cooldown
import PodSizing.Decision

/-!
# Plans

A plan is what one cycle decided for one container: a decision in each dimension and what was
configured when it was taken.  `Policy.assess?` makes the plan for a sample, holding back the
changes of dimensions that rest, and `Plan.changing` picks the plans with something to do.
-/

namespace PodSizing

/-- The decisions for one container. -/
structure Plan where
  container : ContainerId
  decisions : PerDimension Decision
  allocation : PerDimension Allocation
  deriving DecidableEq

namespace Plan

/-- The dimensions that are to be resized. -/
def changing (plan : Plan) : List Dimension :=
  Dimension.all.filter fun dimension => (plan.decisions.get dimension).isChange

/-- The plan resizes something. -/
def isChange (plan : Plan) : Bool :=
  plan.decisions.cpu.isChange || plan.decisions.memory.isChange

/-- The plans that resize something, in the order in which they are given. -/
def selectChanges (plans : List Plan) : List Plan :=
  plans.filter isChange

theorem mem_changing {plan : Plan} {dimension : Dimension} :
    dimension ∈ plan.changing ↔ (plan.decisions.get dimension).isChange = true := by
  simp [changing, Dimension.mem_all]

end Plan

namespace Policy

/-- The decision for one dimension of a sample.  A change of a dimension that rests is held
back. -/
def decideResting? (policy : Policy) (cooldowns : CooldownTable) (now : Instant)
    (sample : Sample) (dimension : Dimension) : Option Decision :=
  (policy.decide? dimension (sample.usage.get dimension) (sample.allocation.get dimension)).map
    fun decision =>
      if decision.isChange &&
          cooldowns.isResting (sample.container, dimension) now policy.cooldown then
        .keep dimension decision.current decision.utilization
      else decision

/-- The events of the decision for one dimension of a sample. -/
def decideRestingEvents (policy : Policy) (cooldowns : CooldownTable) (now : Instant)
    (sample : Sample) (dimension : Dimension) : List Event :=
  let usage := sample.usage.get dimension
  let allocation := sample.allocation.get dimension
  policy.decideEvents dimension usage allocation ++
    match policy.decide? dimension usage allocation with
    | some decision =>
        if decision.isChange &&
            cooldowns.isResting (sample.container, dimension) now policy.cooldown then
          [{ severity := .debug
             message := "Suppressing change during cooldown"
             fields :=
               [("container", .text sample.container.toText), ("dimension", .text dimension.name),
                ("verdict", .text decision.verdict.name)] }]
        else []
    | none => []

/-- The plan for a sample.  There is none when a target is needed in a dimension with inverted
bounds. -/
def assess? (policy : Policy) (cooldowns : CooldownTable) (now : Instant) (sample : Sample) :
    Option Plan := do
  let cpu ← policy.decideResting? cooldowns now sample .cpu
  let memory ← policy.decideResting? cooldowns now sample .memory
  some ⟨sample.container, ⟨cpu, memory⟩, sample.allocation⟩

/-- The events of the plan for a sample. -/
def assessEvents (policy : Policy) (cooldowns : CooldownTable) (now : Instant) (sample : Sample) :
    List Event :=
  Dimension.all.flatMap (policy.decideRestingEvents cooldowns now sample)

end Policy

end PodSizing
