import PodSizing.Operator.Loop
import PodSizing.Operator.Reconciler

/-!
# The service

A service is the loop together with the reconciler whose cycles it runs.  Neither the time that
passes nor the order to stop reaches into a cycle: it comes to its end, as given, and is reported.
A loop that waits takes up at once what is there, so that no time passes for it while a tick is due
or the order has been sent.
-/

namespace PodSizing

/-- Nothing is there for the loop to take up until some time is over. -/
def Loop.Rests (loop : Loop) (time : Duration) : Prop :=
  loop.phase = .waiting → loop.ordered = false ∧ loop.clock + time ≤ loop.ticker.due

instance (loop : Loop) (time : Duration) : Decidable (loop.Rests time) :=
  inferInstanceAs (Decidable (_ → _))

/-- A loop with its reconciler. -/
structure Service where
  loop : Loop
  reconciler : Reconciler

/-- What happens to a service. -/
inductive ServiceAction where
  /-- Time passes. -/
  | elapse (time : Duration)
  /-- The order to stop is sent. -/
  | order
  | beginCycle
  /-- The cycle that is under way ends, having gone as given. -/
  | endCycle (cycle : Cycle)
  | stop

namespace Service

/-- A service that is started: its loop counts as scheduled from now on. -/
def ofReconciler (reconciler : Reconciler) (interval : Duration) : Service where
  loop := .ofInterval interval
  reconciler :=
    { reconciler with
      controller.operator.health := reconciler.health.setScheduled true }

/-- A step of the loop that does not concern the reconciler. -/
def move? (service : Service) (action : LoopAction) : Option Service :=
  (service.loop.step? action).map fun loop => { service with loop }

/-- One step; `none` when the action is not possible now. -/
def step? (service : Service) : ServiceAction → Option Service
  | .elapse time => if service.loop.Rests time then service.move? (.elapse time) else none
  | .order => service.move? .order
  | .beginCycle => service.move? .beginCycle
  | .endCycle cycle => do
      let loop ← service.loop.step? .endCycle
      let (reconciler, _) ← service.reconciler.reconcile? cycle
      some ⟨loop, reconciler⟩
  | .stop => service.move? .stop

/-- A sequence of steps. -/
def run? (service : Service) : List ServiceAction → Option Service
  | [] => some service
  | action :: rest => (service.step? action).bind fun next => run? next rest

end Service

end PodSizing
