import Mathlib.Data.List.Induction
import PodSizing.Operator.Reconciler
import PodSizing.Proofs.Health
import PodSizing.Proofs.Operator.Cooldown

/-!
# Health and the run

The parts are noted at different points of a cycle, and a cycle that fails leaves the note about the
executor as it was.  Still, the results of the cycles so far decide what the registry says:
`HealthRegistry.Reflects` is how, and every reported cycle keeps it.
-/

namespace PodSizing

/-- What came of a cycle. -/
abbrev CycleResult := Except CycleError CycleReport

namespace CycleResult

/-- The cycle ended without a report. -/
def isFailure : CycleResult → Bool
  | .ok _ => false
  | .error _ => true

/-- The number of failures at the end of some results. -/
def failureStreak (results : List CycleResult) : Nat :=
  (results.reverse.takeWhile isFailure).length

variable {results : List CycleResult}

@[simp]
theorem failureStreak_concat_ok (report : CycleReport) :
    failureStreak (results ++ [.ok report]) = 0 := by
  simp [failureStreak, isFailure]

@[simp]
theorem failureStreak_concat_error (error : CycleError) :
    failureStreak (results ++ [.error error]) = failureStreak results + 1 := by
  simp [failureStreak, List.takeWhile_cons, isFailure]

theorem failureStreak_le_length : failureStreak results ≤ results.length := by
  have le := (List.takeWhile_sublist isFailure (l := results.reverse)).length_le
  rwa [List.length_reverse] at le

/-- Where a streak is, a failure was last. -/
theorem exists_concat_of_failureStreak_pos (streak : 0 < failureStreak results) :
    ∃ earlier error, results = earlier ++ [.error error] := by
  rcases results.eq_nil_or_concat with rfl | ⟨earlier, last, rfl⟩
  · contradiction
  · rw [List.concat_eq_append] at streak ⊢
    cases last with
    | ok report => simp at streak
    | error error => exact ⟨earlier, error, rfl⟩

/-- The last three results are failures. -/
def EndInThreeFailures (results : List CycleResult) : Prop :=
  ∃ first second third : CycleError,
    [Except.error first, Except.error second, Except.error third] <:+ results

theorem endInThreeFailures_iff : EndInThreeFailures results ↔ 3 ≤ failureStreak results := by
  have split (earlier : List CycleResult) (first second third : CycleError) :
      earlier ++ [.error first, .error second, .error third] =
        ((earlier ++ [.error first]) ++ [.error second]) ++ [.error third] := by
    simp
  constructor
  · rintro ⟨first, second, third, earlier, rfl⟩
    simp only [split, failureStreak_concat_error]
    omega
  · intro three
    obtain ⟨two, third, rfl⟩ := exists_concat_of_failureStreak_pos (Nat.zero_lt_of_lt three)
    replace three := Nat.le_of_succ_le_succ (failureStreak_concat_error third ▸ three)
    obtain ⟨one, second, rfl⟩ := exists_concat_of_failureStreak_pos (Nat.zero_lt_of_lt three)
    replace three := Nat.le_of_succ_le_succ (failureStreak_concat_error second ▸ three)
    obtain ⟨earlier, first, rfl⟩ := exists_concat_of_failureStreak_pos (Nat.zero_lt_of_lt three)
    exact ⟨first, second, third, earlier, split ..⟩

end CycleResult

namespace Operator

theorem anyFailed_eq_false_iff {outcomes : List Outcome} :
    anyFailed outcomes = false ↔
      ∀ outcome ∈ outcomes, ∀ dimension reason,
        outcome.statuses.get dimension ≠ .failed reason := by
  have isFailed (status : Status) :
      status.isFailed = false ↔ ∀ reason, status ≠ .failed reason := by
    cases status <;> simp [Status.isFailed]
  simp only [anyFailed, List.any_eq_false, Outcome.anyFailed, Bool.not_eq_true,
    Bool.or_eq_false_iff, isFailed]
  constructor
  · intro none outcome mem dimension
    cases dimension with
    | cpu => exact (none outcome mem).1
    | memory => exact (none outcome mem).2
  · exact fun none outcome mem => ⟨none outcome mem .cpu, none outcome mem .memory⟩

/-- At the end of a cycle the executor is noted. -/
theorem health_conclude (operator : Operator) (now wall finish : Instant)
    (assessment : Assessment) (outcomes : List Outcome) (deferred : List Plan) :
    (operator.conclude now wall finish assessment outcomes deferred).1.health =
      operator.health.note .executor
        (if anyFailed outcomes then ⟨.degraded, some "resize failures in last cycle", finish⟩
          else ⟨.healthy, none, finish⟩) := by
  rw [conclude]
  split <;> rfl

end Operator

namespace HealthRegistry

open CycleResult

/-- What a registry says after cycles with the given results, of which it has taken note. -/
structure Reflects (registry : HealthRegistry) (results : List CycleResult) : Prop where
  scheduled : registry.scheduled = true
  streak : registry.cycles.consecutiveFailures = failureStreak results
  /-- The executor is never worse than degraded, whenever it was noted last. -/
  executor : registry.status? .executor ≠ some .unhealthy
  afterReport : ∀ earlier report, results = earlier ++ [.ok report] →
    registry.status? .provider = some .healthy ∧ registry.status? .reconciler = some .healthy ∧
      registry.status? .executor =
        some (if Operator.anyFailed report.outcomes then .degraded else .healthy)
  afterFailure : ∀ earlier error, results = earlier ++ [.error error] →
    registry.status? .provider = some .degraded ∧
      registry.status? .reconciler =
        some (if toleratedFailures ≤ failureStreak results then .unhealthy else .degraded)

namespace Reflects

variable {registry : HealthRegistry} {results : List CycleResult}

/-- What a cycle that fails leaves of the registry reflects its failure. -/
theorem failure (reflects : registry.Reflects results) (error : CycleError) (note : String)
    (now wall finish : Instant) :
    ((registry.noteDegraded .provider note wall).recordFailure now error.message finish).Reflects
      (results ++ [.error error]) where
  scheduled := by
    rw [recordFailure]
    split <;> exact reflects.scheduled
  streak := by
    rw [failureStreak_concat_error, ← reflects.streak, recordFailure]
    split <;> rfl
  executor := by
    rw [status?_recordFailure, if_neg (by decide), noteDegraded, status?_note, if_neg (by decide)]
    exact reflects.executor
  afterReport := by
    intro earlier report eq
    have last := congrArg List.getLast? eq
    simp at last
  afterFailure := by
    intro earlier other eq
    rw [failureStreak_concat_error, ← reflects.streak]
    constructor
    · rw [status?_recordFailure, if_neg (by decide), noteDegraded, status?_note, if_pos rfl]
    · rw [status?_recordFailure, if_pos rfl]
      rfl

/-- What a cycle that ends with a report leaves of the registry reflects this report. -/
theorem report (reflects : registry.Reflects results) (report : CycleReport)
    {executor : ComponentHealth} (noted : executor.status =
      if Operator.anyFailed report.outcomes then .degraded else .healthy)
    (now wall finish : Instant) :
    (((registry.noteHealthy .provider wall).note .executor executor).recordSuccess now
      finish).Reflects (results ++ [.ok report]) where
  scheduled := reflects.scheduled
  streak := (failureStreak_concat_ok report).symm
  executor := by
    rw [status?_recordSuccess, if_neg (by decide), status?_note, if_pos rfl, noted]
    split <;> simp
  afterReport := by
    intro earlier other eq
    obtain ⟨-, eq⟩ := List.append_inj' eq rfl
    cases eq
    refine ⟨?_, ?_, ?_⟩
    · rw [status?_recordSuccess, if_neg (by decide), status?_note, if_neg (by decide), noteHealthy,
        status?_note, if_pos rfl]
    · rw [status?_recordSuccess, if_pos rfl]
    · rw [status?_recordSuccess, if_neg (by decide), status?_note, if_pos rfl, noted]
  afterFailure := by
    intro earlier error eq
    have last := congrArg List.getLast? eq
    simp at last

/-- No part has been noted before the first cycle, or all of them as healthy. -/
theorem ofStart {start : HealthRegistry}
    (fresh : start = .empty ∨ ∃ registered, start = empty.noteAllHealthy registered) :
    (start.setScheduled true).Reflects [] where
  scheduled := rfl
  streak := by
    rcases fresh with rfl | ⟨registered, rfl⟩ <;> rfl
  executor := by
    rcases fresh with rfl | ⟨registered, rfl⟩ <;> exact nofun
  afterReport := by simp
  afterFailure := by simp

variable (reflects : registry.Reflects results)
include reflects

/-- After at least one cycle the whole is unhealthy just when the last three have failed. -/
theorem status_eq_unhealthy_iff (some_run : results ≠ []) :
    registry.status = .unhealthy ↔ EndInThreeFailures results := by
  rw [HealthRegistry.status_eq_unhealthy_iff, endInThreeFailures_iff]
  obtain ⟨earlier, last, eq⟩ := (List.eq_nil_or_concat results).resolve_left some_run
  rw [List.concat_eq_append] at eq
  cases last with
  | ok report =>
      obtain ⟨provider, reconciler, executor⟩ := reflects.afterReport earlier report eq
      rw [eq, failureStreak_concat_ok]
      constructor
      · rintro ⟨component, unhealthy⟩
        cases component with
        | provider => simp [provider] at unhealthy
        | reconciler => simp [reconciler] at unhealthy
        | executor => exact absurd unhealthy reflects.executor
      · intro three
        contradiction
  | error error =>
      obtain ⟨provider, reconciler⟩ := reflects.afterFailure earlier error eq
      constructor
      · rintro ⟨component, unhealthy⟩
        cases component with
        | provider => simp [provider] at unhealthy
        | executor => exact absurd unhealthy reflects.executor
        | reconciler =>
            by_cases three : 3 ≤ failureStreak results
            · exact three
            · rw [reconciler, toleratedFailures, if_neg three] at unhealthy
              contradiction
      · intro three
        exact ⟨.reconciler, by rw [reconciler, toleratedFailures, if_pos three]⟩

/-- After at least one cycle the whole is healthy just when the last one has ended with a report in
which nothing failed. -/
theorem status_eq_healthy_iff (some_run : results ≠ []) :
    registry.status = .healthy ↔ ∃ earlier report, results = earlier ++ [.ok report] ∧
      Operator.anyFailed report.outcomes = false := by
  rw [HealthRegistry.status_eq_healthy_iff]
  obtain ⟨earlier, last, eq⟩ := (List.eq_nil_or_concat results).resolve_left some_run
  rw [List.concat_eq_append] at eq
  cases last with
  | ok report =>
      obtain ⟨provider, reconciler, executor⟩ := reflects.afterReport earlier report eq
      constructor
      · intro healthy
        refine ⟨earlier, report, eq, ?_⟩
        have noted := healthy .executor _ executor
        cases anyFailed : Operator.anyFailed report.outcomes with
        | false => rfl
        | true => simp [anyFailed] at noted
      · rintro ⟨others, same, eq', noneFailed⟩ component status noted
        obtain ⟨-, isLast⟩ := List.append_inj' (eq.symm.trans eq') rfl
        cases isLast
        rw [noneFailed] at executor
        cases component with
        | provider => exact Option.some.inj (noted.symm.trans provider)
        | reconciler => exact Option.some.inj (noted.symm.trans reconciler)
        | executor => exact Option.some.inj (noted.symm.trans executor)
  | error error =>
      obtain ⟨provider, -⟩ := reflects.afterFailure earlier error eq
      constructor
      · intro healthy
        have noted := healthy .provider _ provider
        contradiction
      · rintro ⟨others, same, eq', -⟩
        obtain ⟨-, isLast⟩ := List.append_inj' (eq.symm.trans eq') rfl
        cases isLast

end Reflects

end HealthRegistry

namespace Reconciler

variable {reconciler next last : Reconciler} {cycle : Cycle} {record : CycleRecord}
  {results : List CycleResult}

/-- Every reported cycle keeps the registry true to the results. -/
theorem reflects_of_reconcile? (reflects : reconciler.health.Reflects results)
    (ran : reconciler.reconcile? cycle = some (next, record)) :
    next.health.Reflects (results ++ [record.result]) := by
  obtain ⟨after, ran, settled, -⟩ := reconcile?_eq_some_iff.mp ran
  rw [health, settled]
  by_cases fails : ∃ error, cycle.observation.FailsWith error
  · obtain ⟨error, fails⟩ := fails
    rw [Controller.runCycle?_of_failsWith fails] at ran
    cases ran
    exact reflects.failure error error.providerNote cycle.now cycle.wall cycle.finish
  · rw [not_exists] at fails
    obtain ⟨readings, observed⟩ := Observation.exists_readings_of_usable fails
    obtain ⟨executor, execution, -, -, -, rfl, rfl⟩ :=
      (Controller.runCycle?_eq_some_iff_of_usable observed fails).mp ran
    simp only [Operator.settle, Operator.health_conclude]
    refine reflects.report _ ?_ cycle.now cycle.wall cycle.finish
    exact apply_ite ComponentHealth.status ..

theorem reconcileAll?_cons_eq_some_iff {cycles : List Cycle} {records : List CycleRecord} :
    reconciler.reconcileAll? (cycle :: cycles) = some (last, records) ↔
      ∃ next record others, reconciler.reconcile? cycle = some (next, record) ∧
        next.reconcileAll? cycles = some (last, others) ∧ records = record :: others := by
  simp only [reconcileAll?, Option.bind_eq_bind, Option.bind_eq_some_iff, Prod.exists,
    Option.some.injEq, Prod.mk.injEq]
  constructor
  · rintro ⟨next, record, ran, final, others, run, rfl, rfl⟩
    exact ⟨next, record, others, ran, run, rfl⟩
  · rintro ⟨next, record, others, ran, run, rfl⟩
    exact ⟨next, record, ran, last, others, run, rfl, rfl⟩

/-- So the registry is true to the results of a whole run. -/
theorem reflects_of_reconcileAll? {cycles : List Cycle} {records : List CycleRecord}
    (reflects : reconciler.health.Reflects results)
    (ran : reconciler.reconcileAll? cycles = some (last, records)) :
    last.health.Reflects (results ++ records.map CycleRecord.result) ∧
      records.length = cycles.length := by
  induction cycles generalizing reconciler results records with
  | nil =>
      cases ran
      exact ⟨by simpa using reflects, rfl⟩
  | cons cycle rest ih =>
      obtain ⟨next, record, others, first, run, rfl⟩ := reconcileAll?_cons_eq_some_iff.mp ran
      obtain ⟨reflected, length⟩ := ih (reflects_of_reconcile? reflects first) run
      rw [List.map_cons, List.append_cons, List.length_cons, List.length_cons, length]
      exact ⟨reflected, rfl⟩

/-- After some cycles on a registry to which nothing else was noted, the failures in a row are those
with which the results end, never more than there were cycles.  The whole is unhealthy just when the
last three cycles failed, healthy just when the last one ended with a report in which nothing
failed, and degraded otherwise; the endpoints answer accordingly, and one cycle that ends with a
report makes both of them answer 200 again. -/
theorem health_reflects_run {cycles : List Cycle} {records : List CycleRecord}
    {start : HealthRegistry}
    (fresh : start = .empty ∨ ∃ registered, start = HealthRegistry.empty.noteAllHealthy registered)
    (begun : reconciler.health = start.setScheduled true)
    (ran : reconciler.reconcileAll? cycles = some (last, records)) (some_run : cycles ≠ []) :
    let results := records.map CycleRecord.result
    let status := last.health.status
    let answered (target : String) := (last.health.answer "GET" target).status
    let AllWell := ∃ report, results.getLast? = some (.ok report) ∧
      ∀ outcome ∈ report.outcomes, ∀ dimension reason,
        outcome.statuses.get dimension ≠ .failed reason
    last.health.cycles.consecutiveFailures = CycleResult.failureStreak results ∧
    last.health.cycles.consecutiveFailures ≤ cycles.length ∧
    (status = .unhealthy ↔ CycleResult.EndInThreeFailures results) ∧
    (status = .healthy ↔ AllWell) ∧
    (status = .degraded ↔ ¬ CycleResult.EndInThreeFailures results ∧ ¬ AllWell) ∧
    (∀ target ∈ ["/healthz", "/readyz"],
      (CycleResult.EndInThreeFailures results → answered target = 503) ∧
      (¬ CycleResult.EndInThreeFailures results → answered target = 200) ∧
      ∀ report, results.getLast? = some (.ok report) → answered target = 200) := by
  intro results status answered AllWell
  have fromStart : reconciler.health.Reflects [] := begun ▸ .ofStart fresh
  obtain ⟨reflects, length⟩ := reflects_of_reconcileAll? fromStart ran
  rw [List.nil_append] at reflects
  have some_result : results ≠ [] := by
    rw [← List.length_pos_iff, List.length_map, length, List.length_pos_iff]
    exact some_run
  have unhealthy : status = .unhealthy ↔ CycleResult.EndInThreeFailures results :=
    reflects.status_eq_unhealthy_iff some_result
  have healthy : status = .healthy ↔ AllWell := by
    simp only [status, AllWell, reflects.status_eq_healthy_iff some_result,
      Operator.anyFailed_eq_false_iff, List.getLast?_eq_some_iff]
    exact ⟨fun ⟨earlier, report, eq, well⟩ => ⟨report, ⟨earlier, eq⟩, well⟩,
      fun ⟨report, ⟨earlier, eq⟩, well⟩ => ⟨earlier, report, eq, well⟩⟩
  have answeredEq : ∀ target ∈ ["/healthz", "/readyz"],
      answered target = if status = .unhealthy then 503 else 200 := by
    simp only [List.forall_mem_cons, List.not_mem_nil, false_imp_iff, implies_true, and_true]
    exact ⟨last.health.status_answer_healthz,
      HealthRegistry.status_answer_readyz reflects.scheduled⟩
  refine ⟨reflects.streak, ?_, unhealthy, healthy, ?_, ?_⟩
  · rw [reflects.streak, ← length, ← List.length_map (f := CycleRecord.result)]
    exact CycleResult.failureStreak_le_length
  · rw [← unhealthy, ← healthy]
    cases status <;> simp
  · intro target isEndpoint
    rw [answeredEq target isEndpoint]
    have works (fewer : ¬ CycleResult.EndInThreeFailures results) :
        (if status = .unhealthy then 503 else 200) = 200 :=
      if_neg (unhealthy.not.mpr fewer)
    refine ⟨fun three => if_pos (unhealthy.mpr three), works, ?_⟩
    intro report isLast
    obtain ⟨earlier, eq⟩ := List.getLast?_eq_some_iff.mp isLast
    apply works
    rw [CycleResult.endInThreeFailures_iff, eq, CycleResult.failureStreak_concat_ok]
    decide

/-- A cycle in which the plan for the busy pod fails, three in which nothing can be listed, and one
in which the plan is applied. -/
def sickAndCured : List Cycle :=
  let refused : WorkerAction := .answer (.error (.failed "no room")) (Controller.instantAt 3602)
  let unlisted (seconds : Nat) : Cycle :=
    { Controller.busyCycle seconds [] with observation := .error "connection refused" }
  [Controller.busyCycle 0 ((Controller.applyOnePlan 0 0).set 5 (.work ⟨0, 0⟩ refused)),
    unlisted 30, unlisted 60, unlisted 90, Controller.busyCycle 120 (Controller.applyOnePlan 1 120)]

/-- All parts were registered before.  The executor stays degraded while the cycles fail. -/
theorem health_reflects_run_sick_and_cured :
    ∃ (reconciler sick cured : Reconciler) (sickRecords records : List CycleRecord),
      reconciler.health = (HealthRegistry.empty.noteAllHealthy default).setScheduled true ∧
      reconciler.reconcileAll? (sickAndCured.take 4) = some (sick, sickRecords) ∧
      sick.health.cycles.consecutiveFailures = 3 ∧ sick.health.status = .unhealthy ∧
      sick.health.status? .executor = some .degraded ∧
      (sick.health.answer "GET" "/readyz").status = 503 ∧
      reconciler.reconcileAll? sickAndCured = some (cured, records) ∧
      cured.health.cycles.consecutiveFailures = 0 ∧ cured.health.status = .healthy ∧
      (cured.health.answer "GET" "/readyz").status = 200 := by
  let health := (HealthRegistry.empty.noteAllHealthy default).setScheduled true
  let reconciler := ofOperator ⟨.default, .default, .empty, health⟩
  let sickRun := (reconciler.reconcileAll? (sickAndCured.take 4)).get (by decide +kernel)
  let run := (reconciler.reconcileAll? sickAndCured).get (by decide +kernel)
  have sickRan : reconciler.reconcileAll? (sickAndCured.take 4) = some (sickRun.1, sickRun.2) :=
    (Option.some_get _).symm
  have ran : reconciler.reconcileAll? sickAndCured = some (run.1, run.2) :=
    (Option.some_get _).symm
  obtain ⟨sickStreak, -, unhealthy, -, -, sickAnswers⟩ :=
    health_reflects_run (.inr ⟨default, rfl⟩) rfl sickRan (by decide)
  obtain ⟨streak, -, -, healthy, -, answers⟩ :=
    health_reflects_run (.inr ⟨default, rfl⟩) rfl ran (by decide)
  have sickThree : 3 = CycleResult.failureStreak (sickRun.2.map CycleRecord.result) := by
    decide +kernel
  have three := CycleResult.endInThreeFailures_iff.mpr (Nat.le_of_eq sickThree)
  let report := (run.2.filterMap fun record => record.result.toOption)[1]?.get (by decide +kernel)
  have isLast : (run.2.map CycleRecord.result).getLast? = some (.ok report) := by decide +kernel
  have well : Operator.anyFailed report.outcomes = false := by decide +kernel
  refine ⟨reconciler, sickRun.1, run.1, sickRun.2, run.2, rfl, sickRan, sickStreak.trans ?_,
    unhealthy.mpr three, by decide +kernel, (sickAnswers "/readyz" (by simp)).1 three, ran,
    streak.trans (by decide +kernel), healthy.mpr ⟨report, isLast, ?_⟩,
    (answers "/readyz" (by simp)).2.2 report isLast⟩
  · exact sickThree.symm
  · exact Operator.anyFailed_eq_false_iff.mp well

end Reconciler

end PodSizing
