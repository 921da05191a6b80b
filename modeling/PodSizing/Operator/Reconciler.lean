import PodSizing.Operator.Cycle

/-!
# The reconciler

The loop does not run bare cycles: a reporter is told what came of each one, and the health
registry takes note of it.
-/

namespace PodSizing

/-- What a reporter is told of a cycle. -/
inductive Notice where
  | completed (report : CycleReport)
  /-- The cycle as of the given instant failed as a whole. -/
  | failed (now : Instant) (error : CycleError)
  deriving DecidableEq

/-- What is told of a cycle as of `now`. -/
def Notice.ofResult (now : Instant) : Except CycleError CycleReport → Notice
  | .ok report => .completed report
  | .error error => .failed now error

/-- A controller with its reporter. -/
structure Reconciler where
  controller : Controller
  /-- What the reporter was told so far. -/
  notices : List Notice

namespace Reconciler

/-- A reconciler that has not run yet. -/
def ofOperator (operator : Operator) : Reconciler := ⟨.ofOperator operator, []⟩

/-- What is noted about the parts and the cycles. -/
def health (reconciler : Reconciler) : HealthRegistry := reconciler.controller.operator.health

/-- Runs a cycle, reports it and notes how it went; `none` when the cycle does not come to an
end. -/
def reconcile? (reconciler : Reconciler) (cycle : Cycle) : Option (Reconciler × CycleRecord) := do
  let (next, record) ← reconciler.controller.runCycle? cycle
  some
    ({ controller :=
        { next with operator := next.operator.settle cycle.now cycle.finish record.result }
       notices := reconciler.notices ++ [.ofResult cycle.now record.result] }, record)

theorem reconcile?_eq_some_iff {reconciler next : Reconciler} {cycle : Cycle}
    {record : CycleRecord} :
    reconciler.reconcile? cycle = some (next, record) ↔
      ∃ controller, reconciler.controller.runCycle? cycle = some (controller, record) ∧
        next.controller = { controller with
          operator := controller.operator.settle cycle.now cycle.finish record.result } ∧
        next.notices = reconciler.notices ++ [.ofResult cycle.now record.result] := by
  rcases next with ⟨nextController, notices⟩
  simp only [reconcile?, Option.bind_eq_bind, Option.bind_eq_some_iff, Prod.exists,
    Option.some.injEq, Prod.mk.injEq, Reconciler.mk.injEq]
  constructor
  · rintro ⟨controller, same, ran, ⟨rfl, rfl⟩, rfl⟩
    exact ⟨controller, ran, rfl, rfl⟩
  · rintro ⟨controller, ran, rfl, rfl⟩
    exact ⟨controller, record, ran, ⟨rfl, rfl⟩, rfl⟩

/-- Runs cycles one after the other. -/
def reconcileAll? (reconciler : Reconciler) :
    List Cycle → Option (Reconciler × List CycleRecord)
  | [] => some (reconciler, [])
  | cycle :: rest => do
      let (next, record) ← reconciler.reconcile? cycle
      let (last, records) ← next.reconcileAll? rest
      some (last, record :: records)

end Reconciler

end PodSizing
