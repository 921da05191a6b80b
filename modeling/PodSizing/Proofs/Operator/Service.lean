import PodSizing.Operator.Service
import PodSizing.Proofs.Operator.Cooldown

/-!
# The order to stop

A cycle that is under way when the order to stop is sent is brought to its end and reported.  Then
the loop stops, unless the next tick is already due: the loop takes up the order and the tick in
either order, so that a further cycle may begin.  `Service.Step` says what can happen to a service;
what is known at the end of a cycle is read off its cases.
-/

namespace PodSizing

namespace Service

/-- What can happen to a service. -/
inductive Step (service : Service) : ServiceAction → Service → Prop
  | elapse {time : Duration} (rests : service.loop.Rests time) :
      Step service (.elapse time)
        { service with loop.clock := service.loop.clock + time }
  | order : Step service .order { service with loop.ordered := true }
  | beginCycle (waiting : service.loop.phase = .waiting)
      (due : service.loop.ticker.isDue service.loop.clock = true) :
      Step service .beginCycle
        { service with
          loop.phase := .cycling
          loop.ticker := service.loop.ticker.next service.loop.clock
          loop.cycles := service.loop.cycles + 1 }
  | endCycle {cycle : Cycle} {next : Reconciler} {record : CycleRecord}
      (cycling : service.loop.phase = .cycling)
      (ran : service.reconciler.reconcile? cycle = some (next, record)) :
      Step service (.endCycle cycle) ⟨{ service.loop with phase := .waiting }, next⟩
  | stop (waiting : service.loop.phase = .waiting) (ordered : service.loop.ordered = true) :
      Step service .stop { service with loop.phase := .stopped }

variable {service next last ended : Service} {action : ServiceAction}
  {actions later : List ServiceAction}

theorem step?_eq_some_iff : service.step? action = some next ↔ Step service action next := by
  rcases service with ⟨loop, reconciler⟩
  constructor
  · intro stepped
    cases action with
    | elapse time =>
        simp only [step?, move?, Loop.step?, Option.map_some] at stepped
        split at stepped
        · rename_i rests
          cases stepped
          exact .elapse rests
        · contradiction
    | order =>
        cases stepped
        exact .order
    | beginCycle =>
        simp only [step?, move?, Loop.step?] at stepped
        split at stepped
        · rename_i possible
          cases stepped
          exact .beginCycle possible.1 possible.2
        · contradiction
    | endCycle cycle =>
        simp only [step?, Loop.step?, Option.bind_eq_bind, Option.bind_eq_some_iff, Prod.exists]
          at stepped
        obtain ⟨after, ends, left, record, ran, stepped⟩ := stepped
        split at ends
        · rename_i cycling
          cases ends
          cases stepped
          exact .endCycle cycling ran
        · contradiction
    | stop =>
        simp only [step?, move?, Loop.step?] at stepped
        split at stepped
        · rename_i possible
          cases stepped
          exact .stop possible.1 possible.2
        · contradiction
  · intro step
    cases step with
    | elapse rests => simp [step?, move?, Loop.step?, rests]
    | order => rfl
    | beginCycle waiting due => simp_all [step?, move?, Loop.step?]
    | endCycle cycling ran => simp_all [step?, Loop.step?]
    | stop waiting ordered => simp_all [step?, move?, Loop.step?]

theorem run?_cons_eq_some_iff {rest : List ServiceAction} :
    service.run? (action :: rest) = some last ↔
      ∃ next, Step service action next ∧ next.run? rest = some last := by
  simp only [run?, Option.bind_eq_some_iff, step?_eq_some_iff]

theorem run?_singleton : service.run? [action] = some last ↔ Step service action last := by
  rw [run?_cons_eq_some_iff]
  exact ⟨fun ⟨next, step, same⟩ => Option.some.inj same ▸ step, fun step => ⟨last, step, rfl⟩⟩

/-- Two runs, one after the other. -/
theorem run?_trans (begun : service.run? actions = some next) (rest : next.run? later = some last) :
    service.run? (actions ++ later) = some last := by
  induction actions generalizing service with
  | nil =>
      cases begun
      exact rest
  | cons action actions ih =>
      obtain ⟨middle, step, begun⟩ := run?_cons_eq_some_iff.mp begun
      exact run?_cons_eq_some_iff.mpr ⟨middle, step, ih begun⟩

/-- All cycles that were begun were reported, but for the one that is under way. -/
def Accounts (start : Reconciler) (service : Service) : Prop :=
  service.reconciler.notices.length + (if service.loop.phase = .cycling then 1 else 0) =
    start.notices.length + service.loop.cycles

theorem Accounts.step {start : Reconciler} (accounts : service.Accounts start)
    (step : Step service action next) : next.Accounts start := by
  unfold Accounts at accounts ⊢
  cases step with
  | elapse | order => exact accounts
  | beginCycle waiting =>
      rw [waiting] at accounts
      exact congrArg (· + 1) accounts
  | endCycle cycling ran =>
      obtain ⟨-, -, -, notices⟩ := Reconciler.reconcile?_eq_some_iff.mp ran
      rw [cycling] at accounts
      rw [notices, List.length_append]
      exact accounts
  | stop waiting =>
      rw [waiting] at accounts
      exact accounts

theorem Accounts.run {start : Reconciler} (accounts : service.Accounts start)
    (run : service.run? actions = some last) : last.Accounts start := by
  induction actions generalizing service with
  | nil =>
      cases run
      exact accounts
  | cons action rest ih =>
      obtain ⟨next, step, run⟩ := run?_cons_eq_some_iff.mp run
      exact ih (accounts.step step) run

theorem accounts_ofReconciler (reconciler : Reconciler) (interval : Duration) :
    (ofReconciler reconciler interval).Accounts reconciler := rfl

/-- The service after some more time. -/
def after (service : Service) (time : Duration) : Service :=
  { service with loop.clock := service.loop.clock + time }

/-- The service when its cycle, after some more time, has ended and left a reconciler. -/
def afterCycle (service : Service) (time : Duration) (next : Reconciler) : Service :=
  ⟨{ service.loop with clock := service.loop.clock + time, phase := .waiting }, next⟩

theorem after_after (service : Service) (first second : Duration) :
    (service.after first).after second = service.after (first + second) := by
  have sum : service.loop.clock + first + second = service.loop.clock + (first + second) :=
    congrArg Duration.mk (Nat.add_assoc ..)
  simp only [after, sum]

theorem afterCycle_after (service : Service) (first second : Duration) (next : Reconciler) :
    (service.after first).afterCycle second next = service.afterCycle (first + second) next := by
  have sum : service.loop.clock + first + second = service.loop.clock + (first + second) :=
    congrArg Duration.mk (Nat.add_assoc ..)
  simp only [after, afterCycle, sum]

/-- While a cycle is under way and the order has been sent, there is nothing but time that passes
and the end of the cycle. -/
theorem run?_cases_of_cycling (cycling : service.loop.phase = .cycling)
    (ordered : service.loop.ordered = true) (run : service.run? actions = some last) :
    (∃ time, last = service.after time) ∨
      ∃ time cycle next record rest, service.reconciler.reconcile? cycle = some (next, record) ∧
        (service.afterCycle time next).run? rest = some last := by
  induction actions generalizing service with
  | nil =>
      cases run
      exact .inl ⟨.zero, rfl⟩
  | cons action rest ih =>
      obtain ⟨middle, step, run⟩ := run?_cons_eq_some_iff.mp run
      cases step with
      | @elapse first rests =>
          have stillCycling : (service.after first).loop.phase = .cycling := cycling
          rcases ih stillCycling ordered run with
            ⟨second, rfl⟩ | ⟨second, cycle, next, record, ended⟩
          · exact .inl ⟨first + second, service.after_after first second⟩
          · rw [afterCycle_after] at ended
            exact .inr ⟨first + second, cycle, next, record, ended⟩
      | order =>
          have same : { service with loop.ordered := true } = service := by
            rcases service with ⟨⟨clock, ticker, phase, _, cycles⟩, reconciler⟩
            cases ordered
            rfl
          exact ih cycling ordered (same ▸ run)
      | beginCycle waiting => simp [cycling] at waiting
      | @endCycle cycle next record _ ran =>
          exact .inr ⟨.zero, cycle, next, record, rest, ran, run⟩
      | stop waiting => simp [cycling] at waiting

/-- The order has been sent and no cycle can begin any more. -/
structure IsSettled (service : Service) : Prop where
  ordered : service.loop.ordered = true
  notCycling : service.loop.phase ≠ .cycling
  early : service.loop.phase = .waiting → service.loop.ticker.isDue service.loop.clock = false

theorem IsSettled.step (settled : service.IsSettled) (step : Step service action next) :
    next.IsSettled ∧ next.loop.cycles = service.loop.cycles := by
  obtain ⟨ordered, notCycling, early⟩ := settled
  cases step with
  | @elapse time rests =>
      -- No time passes for a loop that has yet to take up the order.
      have notWaiting : service.loop.phase ≠ .waiting := by
        intro waiting
        rw [(rests waiting).1] at ordered
        contradiction
      exact ⟨⟨ordered, notCycling, (absurd · notWaiting)⟩, rfl⟩
  | order => exact ⟨⟨rfl, notCycling, early⟩, rfl⟩
  | beginCycle waiting due => simp [early waiting] at due
  | endCycle cycling => exact absurd cycling notCycling
  | stop => exact ⟨⟨ordered, by simp, by simp⟩, rfl⟩

theorem IsSettled.run (settled : service.IsSettled) (run : service.run? actions = some last) :
    last.loop.cycles = service.loop.cycles := by
  induction actions generalizing service with
  | nil =>
      cases run
      rfl
  | cons action rest ih =>
      obtain ⟨next, step, run⟩ := run?_cons_eq_some_iff.mp run
      obtain ⟨nextSettled, same⟩ := settled.step step
      exact (ih nextSettled run).trans same

/-- When the order is there after a cycle, no further one can begin just when the next tick is not
due. -/
theorem no_further_cycle_iff (waiting : service.loop.phase = .waiting)
    (ordered : service.loop.ordered = true) :
    (∀ later last, service.run? later = some last → last.loop.cycles = service.loop.cycles) ↔
      service.loop.ticker.isDue service.loop.clock = false := by
  constructor
  · intro none_further
    rw [Bool.eq_false_iff]
    intro due
    have begins := none_further [.beginCycle] _ (run?_singleton.mpr (.beginCycle waiting due))
    exact absurd begins (Nat.succ_ne_self _)
  · intro early later last run
    have settled : service.IsSettled := ⟨ordered, by simp [waiting], fun _ => early⟩
    exact settled.run run

/-- An order to stop that is sent during a cycle does not reach into it: all that can come is the
end of the cycle, with its report.  After that the loop can stop, and it can begin a further cycle
just when the next tick is already due; without such a tick no further cycle begins.  A loop that
has stopped has reported every cycle that it began. -/
theorem order_stops_loop_unless_overdue {reconciler : Reconciler} {interval : Duration}
    (ran : (ofReconciler reconciler interval).run? actions = some service)
    (cycling : service.loop.phase = .cycling) (ordered : service.loop.ordered = true) :
    (∀ later last, service.run? later = some last →
      (∃ time, last = service.after time) ∨
        ∃ time cycle next record rest, service.reconciler.reconcile? cycle = some (next, record) ∧
          (service.afterCycle time next).run? rest = some last) ∧
    (∀ time cycle next record, service.reconciler.reconcile? cycle = some (next, record) →
      let ended := service.afterCycle time next
      service.run? [.elapse time, .endCycle cycle] = some ended ∧
      next.notices = service.reconciler.notices ++ [.ofResult cycle.now record.result] ∧
      (∃ stopped, ended.run? [.stop] = some stopped ∧ stopped.loop.phase = .stopped ∧
        stopped.reconciler = next) ∧
      ((∀ rest last, ended.run? rest = some last → last.loop.cycles = service.loop.cycles) ↔
        service.loop.ticker.isDue (service.loop.clock + time) = false)) ∧
    ∀ later last, service.run? later = some last → last.loop.phase = .stopped →
      last.reconciler.notices.length = reconciler.notices.length + last.loop.cycles := by
  refine ⟨?_, ?_, ?_⟩
  · exact fun later last => run?_cases_of_cycling cycling ordered
  · intro time cycle next record reported ended
    obtain ⟨-, -, -, notices⟩ := Reconciler.reconcile?_eq_some_iff.mp reported
    have passes : Step service (.elapse time) (service.after time) :=
      .elapse fun waiting => absurd (cycling.symm.trans waiting) (by decide)
    have ends : Step (service.after time) (.endCycle cycle) ended := .endCycle cycling reported
    have stops : Step ended .stop { ended with loop.phase := .stopped } := .stop rfl ordered
    refine ⟨?_, notices, ⟨_, run?_singleton.mpr stops, rfl, rfl⟩, ?_⟩
    · exact run?_trans (run?_singleton.mpr passes) (run?_singleton.mpr ends)
    · exact no_further_cycle_iff rfl ordered
  · intro later last run stopped
    have accounts := ((accounts_ofReconciler reconciler interval).run ran).run run
    rwa [Accounts, stopped] at accounts

/-- A cycle in which nothing can be listed. -/
def unlistedCycle : Cycle :=
  { Controller.busyCycle 0 [] with observation := .error "connection refused" }

/-- A service that begins a cycle every 40 milliseconds. -/
def hurried : Service :=
  ofReconciler (.ofOperator ⟨.default, .default, .empty, .empty⟩) (.ofMillis 40)

/-- The order is sent 10 milliseconds after the first cycle has begun.  When the cycle takes 30
milliseconds in all, none follows, and when it takes 100, there may be a further one. -/
theorem order_stops_loop_unless_overdue_in_time_and_late :
    ∃ service next record,
      hurried.run? [.beginCycle, .elapse (.ofMillis 10), .order] = some service ∧
      service.reconciler.reconcile? unlistedCycle = some (next, record) ∧
      next.notices.length = 1 ∧
      (∀ rest last, (service.afterCycle (.ofMillis 20) next).run? rest = some last →
        last.loop.cycles = 1) ∧
      ¬ ∀ rest last, (service.afterCycle (.ofMillis 90) next).run? rest = some last →
        last.loop.cycles = 1 := by
  let service :=
    (hurried.run? [.beginCycle, .elapse (.ofMillis 10), .order]).get (by decide +kernel)
  have ran : hurried.run? [.beginCycle, .elapse (.ofMillis 10), .order] = some service :=
    (Option.some_get _).symm
  let reported := (service.reconciler.reconcile? unlistedCycle).get (by decide +kernel)
  have reports : service.reconciler.reconcile? unlistedCycle = some reported :=
    (Option.some_get _).symm
  obtain ⟨-, ends, -⟩ := order_stops_loop_unless_overdue ran (by decide +kernel) (by decide +kernel)
  obtain ⟨-, notices, -, inTime⟩ := ends (.ofMillis 20) unlistedCycle reported.1 reported.2 reports
  obtain ⟨-, -, -, late⟩ := ends (.ofMillis 90) unlistedCycle reported.1 reported.2 reports
  have one : service.loop.cycles = 1 := by decide +kernel
  rw [one] at inTime late
  refine ⟨service, reported.1, reported.2, ran, reports, ?_, inTime.mpr (by decide +kernel), ?_⟩
  · rw [notices]
    decide +kernel
  · rw [late]
    decide +kernel

/-- The order is sent while the first cycle is under way, which then takes longer than an interval.
A further cycle is begun, and a pod is resized in it. -/
theorem further_cycle_after_order :
    ∃ service last,
      hurried.run? [.beginCycle, .elapse (.ofMillis 60), .order] = some service ∧
      service.loop.phase = .cycling ∧ service.loop.ordered = true ∧
      service.run? [.elapse (.ofMillis 40), .endCycle unlistedCycle, .beginCycle,
        .endCycle (Controller.busyCycle 1 (Controller.applyOnePlan 0 1)), .stop] = some last ∧
      service.loop.cycles = 1 ∧ last.loop.cycles = 2 ∧ last.loop.phase = .stopped ∧
      service.reconciler.controller.executor.calls = [] ∧
      last.reconciler.controller.executor.calls.length = 1 := by
  let service :=
    (hurried.run? [.beginCycle, .elapse (.ofMillis 60), .order]).get (by decide +kernel)
  let last := (service.run? [.elapse (.ofMillis 40), .endCycle unlistedCycle, .beginCycle,
    .endCycle (Controller.busyCycle 1 (Controller.applyOnePlan 0 1)), .stop]).get
      (by decide +kernel)
  exact ⟨service, last, (Option.some_get _).symm, by decide +kernel, by decide +kernel,
    (Option.some_get _).symm, by decide +kernel, by decide +kernel, by decide +kernel,
    by decide +kernel, by decide +kernel⟩

end Service

end PodSizing
