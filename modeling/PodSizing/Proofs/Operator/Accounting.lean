import PodSizing.Proofs.Operator.Cooldown

/-!
# What a cycle accounts for

The report of a cycle counts every target once, as evaluated or as unavailable, and every plan
once, as attempted or as put off.  The plans attempted are for the first of the targets that are to
be changed.  Of the cooldowns exactly those of the applied changes are written, and exactly those
whose window has passed are forgotten.
-/

namespace PodSizing

/-- What is made of some items and kept is labelled like these, in their order. -/
private theorem map_filter_filterMap {α β γ : Type} {items : List α} {make : α → Option β}
    (keep : β → Bool) {label : α → γ} {labelMade : β → γ}
    (same : ∀ item ∈ items, ∀ made, make item = some made → labelMade made = label item) :
    ((items.filterMap make).filter keep).map labelMade =
      (items.filter fun item => (make item).any keep).map label := by
  induction items with
  | nil => rfl
  | cons item rest ih =>
      have restSame := ih fun other mem => same other (List.mem_cons_of_mem item mem)
      cases found : make item with
      | none =>
          rw [List.filterMap_cons_none found, restSame]
          simp [found]
      | some made =>
          rw [List.filterMap_cons_some found]
          cases kept : keep made with
          | false => simp [found, kept, restSame]
          | true => simp [found, kept, restSame, same item List.mem_cons_self made found]

theorem Status.isApplied_iff {status : Status} : status.isApplied = true ↔ status = .applied := by
  cases status <;> simp [Status.isApplied]

namespace Operator

/-- A target has a sample, and its plan changes something. -/
def wantsChange (operator : Operator) (now : Instant) (reading : Target × Reading) : Bool :=
  (reading.2.sample?.bind (operator.policy.assess? operator.cooldowns now)).any Plan.isChange

variable {operator : Operator} {now wall : Instant} {readings : List (Target × Reading)}
  {outcomes : List Outcome} {key : CooldownKey}

/-- The plans are for the targets that are to be changed, in their order. -/
theorem containers_plansFor (operator : Operator) (now : Instant)
    (clean : Observation.IsClean (.ok readings)) :
    (operator.plansFor now (readings.filterMap fun reading => reading.2.sample?)).map
        Plan.container =
      (readings.filter (operator.wantsChange now)).map fun reading => reading.1.container := by
  rw [plansFor, Plan.selectChanges, List.filterMap_filterMap]
  apply map_filter_filterMap
  intro reading mem plan made
  obtain ⟨sample, measured, assessed⟩ := Option.bind_eq_some_iff.mp made
  exact (Policy.container_of_assess? assessed).trans (clean.2 reading mem sample measured)

theorem length_plansFor_le (operator : Operator) (now : Instant) (samples : List Sample) :
    (operator.plansFor now samples).length ≤ samples.length :=
  Nat.le_trans (List.length_filter_le _ _) (List.length_filterMap_le _ _)

/-- Some outcome says that a dimension was changed, at an instant of the wall clock. -/
def AppliedAt (outcomes : List Outcome) (key : CooldownKey) (observed : Instant) : Prop :=
  ∃ outcome ∈ outcomes, outcome.plan.Changes key ∧ outcome.statuses.get key.2 = .applied ∧
    outcome.appliedAt.instant = observed

instance (outcomes : List Outcome) (key : CooldownKey) (observed : Instant) :
    Decidable (AppliedAt outcomes key observed) :=
  inferInstanceAs (Decidable (∃ _ ∈ _, _))

/-- What is recorded are the changes that were applied, on the clock of the cycle. -/
theorem mem_changesOn_iff {changed : Instant} :
    (key, changed) ∈ changesOn now wall outcomes ↔
      ∃ observed, AppliedAt outcomes key observed ∧ onCycleClock now wall observed = changed := by
  obtain ⟨container, dimension⟩ := key
  simp only [changesOn, changesOf, List.mem_map, List.mem_flatMap, List.mem_filter,
    Status.isApplied_iff]
  constructor
  · rintro ⟨change, ⟨outcome, isOutcome, each, ⟨changing, applied⟩, rfl⟩, eq⟩
    cases eq
    exact ⟨_, ⟨outcome, isOutcome, ⟨rfl, changing⟩, applied, rfl⟩, rfl⟩
  · rintro ⟨observed, ⟨outcome, isOutcome, ⟨rfl, changing⟩, applied, rfl⟩, rfl⟩
    exact ⟨_, ⟨outcome, isOutcome, dimension, ⟨changing, applied⟩, rfl⟩, rfl⟩

/-- The cooldowns after a cycle are those before it, with the applied changes written and what has
passed forgotten. -/
theorem get?_prune_recordChanges (operator : Operator) (now wall : Instant) (window : Duration)
    (distinct : (outcomes.map fun outcome => outcome.plan.container).Nodup) (key : CooldownKey) :
    (∀ observed, AppliedAt outcomes key observed →
      ((operator.recordChanges now wall outcomes).prune now window).get? key =
        (some (onCycleClock now wall observed)).filter fun changed =>
          now < Cooldown.expiry changed window) ∧
    ((∀ observed, ¬ AppliedAt outcomes key observed) →
      ((operator.recordChanges now wall outcomes).prune now window).get? key =
        (operator.cooldowns.get? key).filter fun changed =>
          now < Cooldown.expiry changed window) := by
  rw [recordChanges_eq, CooldownTable.get?_prune]
  constructor
  · intro observed applied
    rw [CooldownTable.get?_recordAll_of_mem (nodup_changesOn distinct)
      (mem_changesOn_iff.mpr ⟨observed, applied, rfl⟩)]
  · intro untouched
    rw [CooldownTable.get?_recordAll_of_notMem]
    rintro ⟨other, changed⟩ mem rfl
    obtain ⟨observed, applied, -⟩ := mem_changesOn_iff.mp mem
    exact untouched observed applied

end Operator

namespace Controller

variable {controller next : Controller} {cycle : Cycle} {record : CycleRecord}
  {report : CycleReport}

/-- A cycle that reports has had its plans executed, and reports what came of this. -/
theorem exists_execution_of_runCycle? (reachable : controller.IsReachable)
    (ran : controller.runCycle? cycle = some (next, record))
    (reports : record.result = .ok report) :
    ∃ (readings : List (Target × Reading)) (execution : Execution),
      cycle.observation = .ok readings ∧
      let samples := readings.filterMap fun reading => reading.2.sample?
      let plans := controller.operator.plansFor cycle.now samples
      execution.AccountsFor plans controller.operator.settings.batchSize record.calls ∧
      next.operator.cooldowns =
        (controller.operator.recordChanges cycle.now cycle.wall execution.outcomes).prune cycle.now
          controller.operator.policy.cooldown ∧
      report = ⟨cycle.now, samples.length, readings.length - samples.length, plans.length,
        execution.deferred.length, execution.outcomes⟩ := by
  obtain ⟨actions, reached⟩ := reachable
  rcases runCycle?_cases ran with
    ⟨_, _, rfl, rfl, -⟩ |
    ⟨readings, operator, executor, execution, observed, rfl, -, -, cooldowns, run, here, returned,
      rfl⟩
  · cases reports
  · cases reports
    obtain ⟨accounts, -⟩ := Execution.proper_of_execute reached run here returned
    exact ⟨readings, execution, observed, accounts, cooldowns, rfl⟩

/-- A cycle that reports has counted every target once and every plan once.  Its outcomes are for
the first of the targets that are to be changed, in their order.  Of the cooldowns those of the
applied changes are written, at the instant of the cycle and the time that had passed since on the
wall clock, and then those whose window has passed are forgotten; all others are as before. -/
theorem cycle_accounts_for_targets (reachable : controller.IsReachable)
    (clean : cycle.observation.IsClean)
    (ran : controller.runCycle? cycle = some (next, record))
    (reports : record.result = .ok report) :
    ∃ readings, cycle.observation = .ok readings ∧
      report.evaluated = readings.countP (fun reading => reading.2.sample?.isSome) ∧
      report.evaluated + report.unavailable = readings.length ∧
      report.plansBuilt = report.outcomes.length + report.plansDeferred ∧
      report.plansBuilt ≤ report.evaluated ∧
      (report.outcomes.map fun outcome => outcome.plan.container) <+:
        (readings.filter (controller.operator.wantsChange cycle.now)).map
          (fun reading => reading.1.container) ∧
      ∀ key,
        let unexpired (changed : Instant) : Bool :=
          cycle.now < Cooldown.expiry changed controller.operator.policy.cooldown
        (∀ observed, Operator.AppliedAt report.outcomes key observed →
          next.operator.cooldowns.get? key =
            (some ((cycle.now.add? (observed.since cycle.wall)).getD cycle.now)).filter
              unexpired) ∧
        ((∀ observed, ¬ Operator.AppliedAt report.outcomes key observed) →
          next.operator.cooldowns.get? key =
            (controller.operator.cooldowns.get? key).filter unexpired) := by
  obtain ⟨readings, execution, observed, accounts, cooldowns, rfl⟩ :=
    exists_execution_of_runCycle? reachable ran reports
  rw [observed] at clean
  have complete := accounts.complete
  have plansBuilt := congrArg List.length complete
  rw [List.length_append, List.length_map] at plansBuilt
  have attempted : (execution.outcomes.map fun outcome => outcome.plan.container) ++
      execution.deferred.map Plan.container =
        (readings.filter (controller.operator.wantsChange cycle.now)).map
          fun reading => reading.1.container := by
    rw [← Operator.containers_plansFor controller.operator cycle.now clean, ← complete,
      List.map_append, List.map_map]
    rfl
  have distinct : (execution.outcomes.map fun outcome => outcome.plan.container).Nodup := by
    have part := clean.1.sublist (List.Sublist.map _
      (List.filter_sublist (p := controller.operator.wantsChange cycle.now)))
    rw [← attempted] at part
    exact (List.nodup_append.mp part).1
  refine ⟨readings, observed, List.length_filterMap_eq_countP, ?_, plansBuilt.symm,
    Operator.length_plansFor_le _ _ _, ⟨_, attempted⟩, ?_⟩
  · exact Nat.add_sub_cancel' (List.length_filterMap_le _ _)
  · intro key unexpired
    rw [cooldowns]
    exact Operator.get?_prune_recordChanges controller.operator cycle.now cycle.wall
      controller.operator.policy.cooldown distinct key

/-- A container of a pod of the given name. -/
def appOf (pod : String) : ContainerId := ⟨⟨"default", pod⟩, "app"⟩

/-- A target with 1 GB of memory, of which so much is used. -/
def usingMemory (pod : String) (bytes : Nat) : Target × Reading :=
  let allocation : PerDimension Allocation := ⟨⟨100, 100⟩, ⟨1000000000, 1000000000⟩⟩
  (⟨appOf pod, allocation⟩, .measured ⟨appOf pod, ⟨50, bytes⟩, allocation⟩)

/-- Two of four targets are to be changed.  The call for the first one takes longer than the cycle
may, so that the second one is put off. -/
def lateCycle : Cycle where
  now := instantAt 1000
  wall := instantAt 5000
  observation := .ok [usingMemory "web" 900000000, usingMemory "idle" 500000000,
    (⟨appOf "gone", ⟨⟨100, 100⟩, ⟨100, 100⟩⟩⟩, .unavailable), usingMemory "db" 900000000]
  schedule := [.turn 0, .work ⟨0, 0⟩ .take, .work ⟨0, 0⟩ (.lookUp default),
    .work ⟨0, 0⟩ .enqueue, .work ⟨0, 0⟩ .start, .elapse (.ofSeconds 7),
    .work ⟨0, 0⟩ (.answer (.ok ()) (instantAt 5007)), .work ⟨0, 0⟩ .take, .join 0 default,
    .turn 0, .close 0]
  finish := instantAt 5007

/-- One plan a batch, and no more than five seconds for a cycle.  Of the two known changes one has
rested for long enough. -/
def lateOperator : Operator where
  policy := .default
  settings := { ExecutorSettings.default with batchSize := 1, cycleDeadlineSeconds := some 5 }
  cooldowns := (CooldownTable.empty.record (appOf "idle", .cpu) (instantAt 900)).record
    (appOf "gone", .memory) (instantAt 600)
  health := .empty

theorem cycle_accounts_for_targets_late :
    ∃ next record report, (ofOperator lateOperator).runCycle? lateCycle = some (next, record) ∧
      record.result = .ok report ∧ report.evaluated + report.unavailable = 4 ∧
      report.unavailable = 1 ∧ report.plansBuilt = 2 ∧ report.plansDeferred = 1 ∧
      (report.outcomes.map fun outcome => outcome.plan.container) <+: [appOf "web", appOf "db"] ∧
      next.operator.cooldowns.get? (appOf "web", .memory) = some (instantAt 1007) ∧
      next.operator.cooldowns.get? (appOf "idle", .cpu) = some (instantAt 900) ∧
      next.operator.cooldowns.get? (appOf "gone", .memory) = none := by
  let ran := ((ofOperator lateOperator).runCycle? lateCycle).get (by decide +kernel)
  have run : (ofOperator lateOperator).runCycle? lateCycle = some (ran.1, ran.2) :=
    (Option.some_get _).symm
  have ok_get {result : Except CycleError CycleReport} (isOk : result.toOption.isSome = true) :
      result = .ok (result.toOption.get isOk) := by
    cases result with
    | error => contradiction
    | ok => rfl
  let report := ran.2.result.toOption.get (by decide +kernel)
  have reports : ran.2.result = .ok report := ok_get _
  obtain ⟨readings, observed, -, counted, built, -, inOrder, cooldowns⟩ :=
    cycle_accounts_for_targets (isReachable_ofOperator lateOperator) (by decide +kernel) run reports
  obtain rfl : _ = readings := Except.ok.inj observed
  have untouched (key : CooldownKey)
      (others : ∀ outcome ∈ report.outcomes, ¬ outcome.plan.Changes key) (observed : Instant) :
      ¬ Operator.AppliedAt report.outcomes key observed := by
    rintro ⟨outcome, mem, changes, -⟩
    exact others outcome mem changes
  have wanted : ((lateCycle.observation.toOption.getD []).filter
      (lateOperator.wantsChange lateCycle.now)).map (fun reading => reading.1.container) =
        [appOf "web", appOf "db"] := by decide +kernel
  have written := (cooldowns (appOf "web", .memory)).1 (instantAt 5007) (by decide +kernel)
  have kept := (cooldowns (appOf "idle", .cpu)).2 (untouched _ (by decide +kernel))
  have forgotten := (cooldowns (appOf "gone", .memory)).2 (untouched _ (by decide +kernel))
  refine ⟨ran.1, ran.2, report, run, reports, counted, by decide +kernel, by decide +kernel,
    by decide +kernel, wanted ▸ inOrder, written.trans ?_, kept.trans ?_, forgotten.trans ?_⟩ <;>
    decide +kernel

end Controller

end PodSizing
