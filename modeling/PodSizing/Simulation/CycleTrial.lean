import PodSizing.Operator
import PodSizing.Simulation.Schedule

/-!
# Simulated cycles

Cycles of an operator with a scripted source of usage and a given runtime.  The wall clock is
given: it moves by one nanosecond between the start of a cycle and the application of its plans,
however long the calls take on the clock of the simulation.
-/

namespace PodSizing.Simulation

/-- What a scripted source knows about one container. -/
inductive ScriptedUsage where
  | usage (amounts : PerDimension Nat)
  | failure (message : String)

/-- A scripted source of usage. -/
structure Source where
  targets : List Target
  /-- Usage by the text of the container. -/
  usage : List (String × ScriptedUsage)
  /-- Why listing fails, outermost reason first. -/
  listError : Option (List String)

namespace Source

/-- What the source gives when a target is measured: it is unavailable where nothing is scripted. -/
def reading (source : Source) (target : Target) : Reading :=
  match source.usage.lookup target.container.toText with
  | some (.usage amounts) => .measured ⟨target.container, amounts, target.allocation⟩
  | some (.failure message) => .failed message
  | none => .unavailable

/-- What a cycle observes. -/
def observe (source : Source) : Observation :=
  match source.listError with
  | some reasons => .error (": ".intercalate reasons)
  | none => .ok (source.targets.map fun target => (target, source.reading target))

end Source

/-- A cycle that is over. -/
structure CycleTrial where
  operator : Operator
  trial : Trial
  result : Except CycleError CycleReport
  events : List Event

namespace CycleTrial

/-- The instant of the wall clock at which the plans of a cycle are applied. -/
def applicationTime (wall : Instant) : Instant := (wall.add? ⟨1⟩).getD wall

/-- Runs a cycle as of `now` that starts when the wall clock shows `wall`. -/
def run (operator : Operator) (trial : Trial) (now wall : Instant) (observation : Observation) :
    CycleTrial :=
  let observed := operator.assessEvents now observation
  match operator.assess now wall observation with
  | (operator, .error error) => ⟨operator, trial, .error error, observed⟩
  | (operator, .ok assessment) =>
      let finish := applicationTime wall
      let applied := { trial with now := finish }.apply assessment.plans
        operator.settings.batchSize operator.settings.concurrency
      let (concluded, report) := operator.conclude now wall finish assessment applied.outcomes
        applied.deferred
      ⟨concluded, applied, .ok report,
        observed ++ applied.events.drop trial.events.length ++
          operator.concludeEvents now wall applied.outcomes⟩

/-- Runs a cycle as of the wall clock and reports it. -/
def runOnce (operator : Operator) (trial : Trial) (wall : Instant) (observation : Observation) :
    CycleTrial :=
  let cycle := run operator trial wall wall observation
  { cycle with
    operator := cycle.operator.settle wall (applicationTime wall) cycle.result }

end CycleTrial

end PodSizing.Simulation
