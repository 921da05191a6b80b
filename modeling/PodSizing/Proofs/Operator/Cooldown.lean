import PodSizing.Proofs.Decision
import PodSizing.Proofs.Operator.Cycle

/-!
# Cooldowns over whole runs

A change that a cycle has recorded for a dimension of a container is respected by every later
cycle: until its window has passed, no plan changes the dimension and no request contains it.  The
change stays in the table until it has expired, so that dropping old entries never shortens a rest.
-/

namespace PodSizing

namespace Cooldown

/-- A window that is not too long is taken as given. -/
theorem expiry_of_le {window : Duration} (le : window ≤ maxWindow) (changed : Instant) :
    expiry changed window = (changed.add? window).getD .last := by
  have notLonger : ¬ maxWindow.nanos < window.nanos := Nat.not_lt_of_le le
  simp [expiry, notLonger]

end Cooldown

namespace CooldownTable

/-- Records changes one after the other. -/
def recordAll (table : CooldownTable) (changes : List (CooldownKey × Instant)) : CooldownTable :=
  changes.foldl (fun table change => table.record change.1 change.2) table

variable {table : CooldownTable} {changes : List (CooldownKey × Instant)} {key : CooldownKey}

theorem get?_recordAll_of_notMem (absent : ∀ change ∈ changes, change.1 ≠ key) :
    (table.recordAll changes).get? key = table.get? key := by
  induction changes generalizing table with
  | nil => rfl
  | cons change rest ih =>
      have others : ∀ other ∈ rest, other.1 ≠ key :=
        fun other mem => absent other (List.mem_cons_of_mem change mem)
      rw [recordAll, List.foldl_cons, ← recordAll, ih others, get?_record,
        if_neg (Ne.symm (absent change List.mem_cons_self))]

theorem get?_recordAll_of_mem (distinct : (changes.map Prod.fst).Nodup) {changed : Instant}
    (mem : (key, changed) ∈ changes) : (table.recordAll changes).get? key = some changed := by
  induction changes generalizing table with
  | nil => contradiction
  | cons change rest ih =>
      rw [List.map_cons, List.nodup_cons] at distinct
      rw [recordAll, List.foldl_cons, ← recordAll]
      rcases List.mem_cons.mp mem with rfl | inRest
      · have absent : ∀ other ∈ rest, other.1 ≠ key := by
          rintro other inRest rfl
          exact distinct.1 (List.mem_map.mpr ⟨_, inRest, rfl⟩)
        rw [get?_recordAll_of_notMem absent, get?_record, if_pos rfl]
      · exact ih distinct.2 inRest

end CooldownTable

/-- What is made of some items is labelled like these, in their order. -/
theorem map_filterMap_sublist {α β γ : Type} {items : List α} {make : α → Option β}
    {label : α → γ} {labelMade : β → γ}
    (same : ∀ item ∈ items, ∀ made, make item = some made → labelMade made = label item) :
    ((items.filterMap make).map labelMade).Sublist (items.map label) := by
  induction items with
  | nil => exact List.Sublist.refl _
  | cons item rest ih =>
      have restSame := ih fun other mem => same other (List.mem_cons_of_mem item mem)
      cases found : make item with
      | none =>
          rw [List.filterMap_cons_none found, List.map_cons]
          exact restSame.cons _
      | some made =>
          rw [List.filterMap_cons_some found, List.map_cons, List.map_cons,
            same item List.mem_cons_self made found]
          exact restSame.cons_cons _

namespace Instant

theorem nanos_of_add? {instant later : Instant} {duration : Duration}
    (added : instant.add? duration = some later) :
    later.nanos = instant.nanos + duration.nanos := by
  simp only [add?, ofNanos?] at added
  split at added
  · split at added
    · cases added
      rfl
    · contradiction
  · contradiction

end Instant

namespace Plan

/-- The plan changes the dimension of the container. -/
def Changes (plan : Plan) (key : CooldownKey) : Prop :=
  plan.container = key.1 ∧ key.2 ∈ plan.changing

instance (plan : Plan) (key : CooldownKey) : Decidable (plan.Changes key) :=
  inferInstanceAs (Decidable (_ ∧ _))

end Plan

namespace Policy

variable {policy : Policy} {cooldowns : CooldownTable} {now : Instant} {sample : Sample}

/-- A decision that changes a dimension is about one that does not rest. -/
private theorem not_isResting_of_decideResting? {dimension : Dimension} {decision : Decision}
    (decided : policy.decideResting? cooldowns now sample dimension = some decision)
    (changes : decision.isChange = true) :
    cooldowns.isResting (sample.container, dimension) now policy.cooldown = false := by
  rw [decideResting?, Option.map_eq_some_iff] at decided
  rcases decided with ⟨first, -, rfl⟩
  split at changes
  · contradiction
  · rename_i free
    rw [changes, Bool.true_and] at free
    exact Bool.eq_false_iff.mpr free

theorem container_of_assess? {plan : Plan}
    (assessed : policy.assess? cooldowns now sample = some plan) :
    plan.container = sample.container :=
  (assess?_eq_some_iff.mp assessed).1

/-- A plan changes only what does not rest. -/
theorem not_isResting_of_assess? {plan : Plan} {key : CooldownKey}
    (assessed : policy.assess? cooldowns now sample = some plan) (changes : plan.Changes key) :
    cooldowns.isResting key now policy.cooldown = false := by
  rcases key with ⟨container, dimension⟩
  rcases changes with ⟨isContainer, changing⟩
  obtain rfl : sample.container = container :=
    (container_of_assess? assessed).symm.trans isContainer
  obtain ⟨-, -, decided⟩ := assess?_eq_some_iff.mp assessed
  exact not_isResting_of_decideResting? (decided dimension) (Plan.mem_changing.mp changing)

end Policy

namespace Operator

variable {operator : Operator} {now wall : Instant} {samples : List Sample} {plan : Plan}
  {outcomes : List Outcome} {key : CooldownKey}

/-- The instant on the clock of the cycle is not before the cycle. -/
theorem le_onCycleClock (now wall observed : Instant) : now ≤ onCycleClock now wall observed := by
  rw [onCycleClock]
  cases added : now.add? (observed.since wall) with
  | none => exact Int.le_refl _
  | some instant =>
      have nanos := Instant.nanos_of_add? added
      show now.nanos ≤ instant.nanos
      omega

/-- No plan of a cycle changes what rests. -/
theorem not_isResting_of_mem_plansFor (mem : plan ∈ operator.plansFor now samples)
    (changes : plan.Changes key) :
    operator.cooldowns.isResting key now operator.policy.cooldown = false := by
  rw [plansFor, Plan.selectChanges, List.mem_filter, List.mem_filterMap] at mem
  rcases mem with ⟨⟨sample, -, assessed⟩, -⟩
  exact Policy.not_isResting_of_assess? assessed changes

/-- The plans are for containers of the samples, in their order. -/
theorem containers_plansFor_sublist (operator : Operator) (now : Instant)
    (samples : List Sample) :
    ((operator.plansFor now samples).map Plan.container).Sublist
      (samples.map Sample.container) := by
  have assessed : ((samples.filterMap (operator.policy.assess? operator.cooldowns now)).map
      Plan.container).Sublist (samples.map Sample.container) :=
    map_filterMap_sublist fun sample _ plan made => Policy.container_of_assess? made
  exact (List.Sublist.map _ List.filter_sublist).trans assessed

/-- The changes of a cycle on its own clock. -/
def changesOn (now wall : Instant) (outcomes : List Outcome) : List (CooldownKey × Instant) :=
  (changesOf outcomes).map fun change => (change.1, onCycleClock now wall change.2)

theorem recordChanges_eq (operator : Operator) (now wall : Instant) (outcomes : List Outcome) :
    operator.recordChanges now wall outcomes =
      operator.cooldowns.recordAll (changesOn now wall outcomes) := by
  rw [recordChanges, CooldownTable.recordAll, changesOn, List.foldl_map]

/-- What is recorded was applied for a plan that changes it. -/
theorem changes_of_mem_changesOn {changed : Instant}
    (mem : (key, changed) ∈ changesOn now wall outcomes) :
    ∃ outcome ∈ outcomes, outcome.plan.Changes key := by
  simp only [changesOn, changesOf, List.mem_map, List.mem_flatMap, List.mem_filter] at mem
  rcases mem with ⟨change, ⟨outcome, isOutcome, dimension, ⟨changing, -⟩, rfl⟩, eq⟩
  cases eq
  exact ⟨outcome, isOutcome, rfl, changing⟩

theorem mem_changesOn_of_applied {outcome : Outcome} {dimension : Dimension}
    (mem : outcome ∈ outcomes) (proper : outcome.IsProper)
    (applied : outcome.statuses.get dimension = .applied) :
    ((outcome.plan.container, dimension),
      onCycleClock now wall outcome.appliedAt.instant) ∈ changesOn now wall outcomes := by
  simp only [changesOn, changesOf, List.mem_map, List.mem_flatMap, List.mem_filter]
  refine ⟨_, ⟨outcome, mem, dimension, ⟨proper.mem_changing applied, ?_⟩, rfl⟩, rfl⟩
  rw [applied]
  rfl

/-- Outcomes for distinct containers are recorded at distinct places. -/
theorem nodup_changesOn
    (distinct : (outcomes.map fun outcome => outcome.plan.container).Nodup) :
    ((changesOn now wall outcomes).map Prod.fst).Nodup := by
  have keys : (changesOn now wall outcomes).map Prod.fst =
      outcomes.flatMap fun outcome =>
        (outcome.plan.changing.filter fun dimension =>
          (outcome.statuses.get dimension).isApplied).map fun dimension =>
            (outcome.plan.container, dimension) := by
    simp [changesOn, changesOf, List.map_flatMap, Function.comp_def]
  rw [keys]
  clear keys
  induction outcomes with
  | nil => exact List.nodup_nil
  | cons outcome rest ih =>
      rw [List.map_cons, List.nodup_cons] at distinct
      rw [List.flatMap_cons, List.nodup_append]
      refine ⟨?_, ih distinct.2, ?_⟩
      · have dimensions : outcome.plan.changing.Nodup :=
          List.Nodup.sublist List.filter_sublist (by decide)
        rw [List.Nodup, List.pairwise_map]
        refine (List.Nodup.sublist List.filter_sublist dimensions).imp ?_
        intro first second ne same
        exact ne (congrArg Prod.snd same)
      · rintro key mem other otherMem rfl
        rcases List.mem_map.mp mem with ⟨dimension, -, rfl⟩
        rcases List.mem_flatMap.mp otherMem with ⟨another, inRest, keyed⟩
        rcases List.mem_map.mp keyed with ⟨same, -, eq⟩
        apply distinct.1
        exact List.mem_map.mpr ⟨another, inRest, congrArg Prod.fst eq⟩

end Operator

/-- Each target is listed once, and each sample is for its target. -/
def Observation.IsClean : Observation → Prop
  | .error _ => True
  | .ok readings =>
      (readings.map fun reading => reading.1.container).Nodup ∧
        ∀ reading ∈ readings, ∀ sample ∈ reading.2.sample?,
          sample.container = reading.1.container

instance : ∀ observation, Decidable (Observation.IsClean observation)
  | .error _ => .isTrue trivial
  | .ok readings =>
      inferInstanceAs (Decidable ((readings.map fun reading => reading.1.container).Nodup ∧
        ∀ reading ∈ readings, ∀ sample ∈ reading.2.sample?,
          sample.container = reading.1.container))

/-- The samples of a clean observation are for distinct containers. -/
theorem Observation.IsClean.nodup_samples {readings : List (Target × Reading)}
    (clean : IsClean (.ok readings)) :
    ((readings.filterMap fun reading => reading.2.sample?).map Sample.container).Nodup := by
  rcases clean with ⟨distinct, own⟩
  exact List.Nodup.sublist (map_filterMap_sublist own) distinct

/-- A cycle touches a dimension of a container: a plan changes it, or a request contains it. -/
def CycleRecord.Touches (record : CycleRecord) (key : CooldownKey) : Prop :=
  (∃ plan ∈ record.plans, plan.Changes key) ∨
    ∃ call ∈ record.calls, call.request.container = key.1 ∧ key.2 ∈ call.request.dimensions

instance (record : CycleRecord) (key : CooldownKey) : Decidable (record.Touches key) :=
  inferInstanceAs (Decidable (_ ∨ _))

namespace Controller

variable {controller next last : Controller} {cycle : Cycle} {record : CycleRecord}
  {key : CooldownKey} {changed : Instant}

/-- As of an instant the controller still knows of a change, or its window has passed. -/
def Remembers (controller : Controller) (now : Instant) (key : CooldownKey) (changed : Instant) :
    Prop :=
  controller.operator.cooldowns.get? key = some changed ∨
    Cooldown.expiry changed controller.operator.policy.cooldown ≤ now

/-- A dimension that is known or has rested is changed only after its window. -/
theorem Remembers.expiry_le_of_changes {now later : Instant}
    (remembers : controller.Remembers now key changed) (le : now ≤ later) {samples : List Sample}
    {plan : Plan} (mem : plan ∈ controller.operator.plansFor later samples)
    (changes : plan.Changes key) :
    Cooldown.expiry changed controller.operator.policy.cooldown ≤ later := by
  rcases remembers with known | expired
  · have free := Operator.not_isResting_of_mem_plansFor mem changes
    rw [CooldownTable.isResting, known] at free
    exact Int.not_lt.mp (of_decide_eq_false free)
  · exact Int.le_trans expired le

/-- Dropping the entries whose window has passed forgets nothing that matters. -/
theorem remembers_of_prune {table : CooldownTable} {operator : Operator} {executor : Executor}
    {now : Instant} (pruned : operator.cooldowns = table.prune now operator.policy.cooldown)
    (known : table.get? key = some changed) :
    Remembers ⟨operator, executor⟩ now key changed := by
  by_cases resting : now < Cooldown.expiry changed operator.policy.cooldown
  · left
    rw [pruned, CooldownTable.get?_prune, known]
    simp [Option.filter, resting]
  · exact .inr (Int.not_lt.mp resting)

/-- A cycle keeps what the controller knows of a change. -/
theorem CycleStep.remembers (step : CycleStep controller cycle next record) {now : Instant}
    (le : now ≤ cycle.now) (remembers : controller.Remembers now key changed) :
    next.Remembers cycle.now key changed := by
  cases step with
  | failed policy cooldowns =>
      rcases remembers with known | expired
      · left
        rw [cooldowns]
        exact known
      · right
        rw [policy]
        exact Int.le_trans expired le
  | @applied operator executor execution readings calls report observed policy cooldowns accounts
      proper outcomes =>
      rw [Operator.recordChanges_eq, ← policy] at cooldowns
      by_cases again : ∃ change ∈ Operator.changesOn cycle.now cycle.wall execution.outcomes,
          change.1 = key
      · -- The dimension was changed again, so that its window had passed before.
        rcases again with ⟨change, mem, rfl⟩
        obtain ⟨outcome, isOutcome, changes⟩ := Operator.changes_of_mem_changesOn mem
        have isPlan : outcome.plan ∈ controller.operator.plansFor cycle.now
            (readings.filterMap fun reading => reading.2.sample?) := by
          rw [← accounts.complete]
          exact List.mem_append_left _ (List.mem_map_of_mem isOutcome)
        right
        rw [policy]
        exact remembers.expiry_le_of_changes le isPlan changes
      · rcases remembers with known | expired
        · apply remembers_of_prune cooldowns
          rw [CooldownTable.get?_recordAll_of_notMem]
          · exact known
          · intro change mem eq
            exact again ⟨change, mem, eq⟩
        · right
          rw [policy]
          exact Int.le_trans expired le

/-- What a cycle records is known after it. -/
theorem CycleStep.remembers_of_applied (step : CycleStep controller cycle next record)
    (clean : cycle.observation.IsClean) {outcome : Outcome} (mem : outcome ∈ record.outcomes)
    {dimension : Dimension}
    (applied : outcome.statuses.get dimension = .applied) :
    next.Remembers cycle.now (outcome.plan.container, dimension)
      (Operator.onCycleClock cycle.now cycle.wall outcome.appliedAt.instant) := by
  cases step with
  | failed => contradiction
  | @applied operator executor execution readings calls result observed policy cooldowns accounts
      proper outcomes =>
      simp only [CycleRecord.outcomes, outcomes] at mem
      rw [Operator.recordChanges_eq, ← policy] at cooldowns
      have distinct : (execution.outcomes.map fun outcome => outcome.plan.container).Nodup := by
        rw [observed] at clean
        have plans := (Operator.containers_plansFor_sublist controller.operator cycle.now
          (readings.filterMap fun reading => reading.2.sample?)).nodup clean.nodup_samples
        rw [← accounts.complete, List.map_append, List.map_map] at plans
        exact (List.nodup_append.mp plans).1
      apply remembers_of_prune cooldowns
      exact CooldownTable.get?_recordAll_of_mem (Operator.nodup_changesOn distinct)
        (Operator.mem_changesOn_of_applied mem (proper outcome mem) applied)

/-- A request is for a plan that changes what it contains. -/
theorem CycleStep.changes_of_call (step : CycleStep controller cycle next record) {call : Call}
    (mem : call ∈ record.calls) (container : call.request.container = key.1)
    (contains : key.2 ∈ call.request.dimensions) : ∃ plan ∈ record.plans, plan.Changes key := by
  cases step with
  | failed => contradiction
  | applied observed policy cooldowns accounts proper outcomes =>
      obtain ⟨-, plan, attempt, here, request⟩ := accounts.calls call mem
      rw [request] at container contains
      exact ⟨plan, List.mem_of_getElem? here, container,
        Plan.mem_changing_of_mem_dimensions contains⟩

/-- A cycle changes a dimension of which the controller knows only after the window. -/
theorem CycleStep.expiry_le (step : CycleStep controller cycle next record) {now : Instant}
    (remembers : controller.Remembers now key changed) (le : now ≤ cycle.now)
    (touches : record.Touches key) :
    Cooldown.expiry changed controller.operator.policy.cooldown ≤ cycle.now := by
  have changes : ∃ plan ∈ record.plans, plan.Changes key := by
    rcases touches with planned | ⟨call, mem, container, contains⟩
    · exact planned
    · exact step.changes_of_call mem container contains
  rcases changes with ⟨plan, mem, changes⟩
  cases step with
  | failed => contradiction
  | applied => exact remembers.expiry_le_of_changes le mem changes

theorem CycleStep.cycle_eq (step : CycleStep controller cycle next record) :
    record.cycle = cycle := by
  cases step <;> rfl

theorem CycleStep.policy_eq (step : CycleStep controller cycle next record) :
    next.operator.policy = controller.operator.policy := by
  cases step with
  | failed policy => exact policy
  | applied observed policy => exact policy

theorem runCycles?_cons_eq_some_iff {cycles : List Cycle} {records : List CycleRecord} :
    controller.runCycles? (cycle :: cycles) = some (last, records) ↔
      ∃ next record others, controller.runCycle? cycle = some (next, record) ∧
        next.runCycles? cycles = some (last, others) ∧ records = record :: others := by
  simp only [runCycles?, Option.bind_eq_bind, Option.bind_eq_some_iff, Prod.exists,
    Option.some.injEq, Prod.mk.injEq]
  constructor
  · rintro ⟨next, record, ran, final, others, run, rfl, rfl⟩
    exact ⟨next, record, others, ran, run, rfl⟩
  · rintro ⟨next, record, others, ran, run, rfl⟩
    exact ⟨next, record, ran, last, others, run, rfl, rfl⟩

/-- What a controller knows is respected by all later cycles. -/
theorem expiry_le_of_runCycles? {cycles : List Cycle} {records : List CycleRecord} {now : Instant}
    (reachable : controller.IsReachable) (remembers : controller.Remembers now key changed)
    (later : ∀ cycle ∈ cycles, now ≤ cycle.now)
    (ordered : cycles.Pairwise fun first second => first.now ≤ second.now)
    (run : controller.runCycles? cycles = some (last, records)) :
    ∀ record ∈ records, record.Touches key →
      Cooldown.expiry changed controller.operator.policy.cooldown ≤ record.cycle.now := by
  induction cycles generalizing controller now records with
  | nil =>
      cases run
      simp
  | cons cycle rest ih =>
      rcases runCycles?_cons_eq_some_iff.mp run with ⟨next, record, others, ran, restRun, rfl⟩
      obtain ⟨step, nextReachable⟩ := CycleStep.of_runCycle? reachable ran
      rcases List.pairwise_cons.mp ordered with ⟨after, restOrdered⟩
      have le := later cycle List.mem_cons_self
      intro other mem touches
      rcases List.mem_cons.mp mem with rfl | inRest
      · rw [step.cycle_eq]
        exact step.expiry_le remembers le touches
      · rw [← step.policy_eq]
        exact ih nextReachable (step.remembers le remembers) after restOrdered restRun other inRest
          touches

/-- What one cycle has applied is respected by the cycles after it. -/
private theorem expiry_le_of_applied {cycles : List Cycle} {records : List CycleRecord}
    (reachable : controller.IsReachable)
    (clean : ∀ cycle ∈ cycles, cycle.observation.IsClean)
    (ordered : cycles.Pairwise fun first second => first.now ≤ second.now)
    (run : controller.runCycles? cycles = some (last, records)) {first second : Nat}
    {later : CycleRecord} {outcome : Outcome} {dimension : Dimension}
    (here : records[first]? = some record) (mem : outcome ∈ record.outcomes)
    (applied : outcome.statuses.get dimension = .applied)
    (lt : first < second) (there : records[second]? = some later)
    (touches : later.Touches (outcome.plan.container, dimension)) :
    Cooldown.expiry
      (Operator.onCycleClock record.cycle.now record.cycle.wall outcome.appliedAt.instant)
      controller.operator.policy.cooldown ≤ later.cycle.now := by
  induction cycles generalizing controller records first second with
  | nil =>
      cases run
      simp at here
  | cons cycle rest ih =>
      rcases runCycles?_cons_eq_some_iff.mp run with ⟨next, head, others, ran, restRun, rfl⟩
      obtain ⟨step, nextReachable⟩ := CycleStep.of_runCycle? reachable ran
      rcases List.pairwise_cons.mp ordered with ⟨after, restOrdered⟩
      have restClean : ∀ other ∈ rest, other.observation.IsClean :=
        fun other mem => clean other (List.mem_cons_of_mem cycle mem)
      obtain ⟨index, rfl⟩ := Nat.exists_eq_add_one_of_ne_zero (Nat.ne_zero_of_lt lt)
      rw [List.getElem?_cons_succ] at there
      rw [← step.policy_eq]
      cases first with
      | zero =>
          rw [List.getElem?_cons_zero] at here
          cases here
          have remembers := step.remembers_of_applied (clean cycle List.mem_cons_self) mem applied
          rw [step.cycle_eq]
          exact expiry_le_of_runCycles? nextReachable remembers after restOrdered restRun later
            (List.mem_of_getElem? there) touches
      | succ first =>
          rw [List.getElem?_cons_succ] at here
          exact ih nextReachable restClean restOrdered restRun here (Nat.lt_of_succ_lt_succ lt)
            there

/-- A dimension that a cycle has changed at an instant of its clock is not touched by any later
cycle before the cooldown after this instant has passed, and the instant is not before the cycle.
The instants of the cycles must not go back; what the runtime does, and how the wall clock runs,
does not matter. -/
theorem cooldown_respected {operator : Operator} {cycles : List Cycle} {last : Controller}
    {records : List CycleRecord} (convertible : operator.policy.cooldown ≤ Cooldown.maxWindow)
    (clean : ∀ cycle ∈ cycles, cycle.observation.IsClean)
    (ordered : cycles.Pairwise fun first second => first.now ≤ second.now)
    (run : (ofOperator operator).runCycles? cycles = some (last, records)) :
    ∀ (first : Nat) (record : CycleRecord) (outcome : Outcome) (dimension : Dimension),
      records[first]? = some record → outcome ∈ record.outcomes →
      outcome.statuses.get dimension = .applied →
      let changed := Operator.onCycleClock record.cycle.now record.cycle.wall
        outcome.appliedAt.instant
      record.cycle.now ≤ changed ∧
        ∀ (second : Nat) (later : CycleRecord), first < second → records[second]? = some later →
          later.Touches (outcome.plan.container, dimension) →
          (changed.add? operator.policy.cooldown).getD .last ≤ later.cycle.now := by
  intro first record outcome dimension here mem applied changed
  refine ⟨Operator.le_onCycleClock _ _ _, ?_⟩
  intro second later lt there touches
  rw [← Cooldown.expiry_of_le convertible]
  exact expiry_le_of_applied (isReachable_ofOperator operator) clean ordered run here mem applied lt
    there touches

/-- A pod that has used nine tenths of its memory. -/
def busyPod : Observation :=
  let container : ContainerId := ⟨⟨"default", "web"⟩, "app"⟩
  let allocation : PerDimension Allocation := ⟨⟨100, 100⟩, ⟨1000000000, 1000000000⟩⟩
  .ok [(⟨container, allocation⟩, .measured ⟨container, ⟨50, 900000000⟩, allocation⟩)]

/-- A number of seconds after the start of 1970. -/
def instantAt (seconds : Nat) : Instant :=
  ((default : Instant).add? (.ofSeconds seconds)).getD .last

/-- A cycle that finds the pod busy; the wall clock is an hour ahead of its clock. -/
def busyCycle (seconds : Nat) (schedule : List Action) : Cycle :=
  ⟨instantAt seconds, instantAt (3600 + seconds), busyPod, schedule, instantAt (3602 + seconds)⟩

/-- What happens while the only plan of an execution is applied, two seconds after it began. -/
def applyOnePlan (execution seconds : Nat) : List Action :=
  [.turn execution, .work ⟨execution, 0⟩ .take, .work ⟨execution, 0⟩ (.lookUp default),
    .work ⟨execution, 0⟩ .enqueue, .work ⟨execution, 0⟩ .start,
    .work ⟨execution, 0⟩ (.answer (.ok ()) (instantAt (3602 + seconds))),
    .work ⟨execution, 0⟩ .take, .join execution default, .turn execution, .close execution]

/-- The pod is resized, then held back, and resized again when the time has come. -/
def threeCycles : List Cycle :=
  [busyCycle 0 (applyOnePlan 0 0), busyCycle 100 [.turn 1, .close 1],
    busyCycle 302 (applyOnePlan 2 302)]

theorem cooldown_respected_three_cycles :
    ∃ last records record outcome later,
      (ofOperator ⟨.default, .default, .empty, .empty⟩).runCycles? threeCycles =
        some (last, records) ∧
      records.map (fun record => record.plans.length) = [1, 0, 1] ∧
      records[0]? = some record ∧ outcome ∈ record.outcomes ∧
      outcome.statuses.get .memory = .applied ∧ records[2]? = some later ∧
      later.Touches (outcome.plan.container, .memory) ∧
      ((instantAt 2).add? (.ofSeconds 300)).getD .last ≤ later.cycle.now := by
  let operator : Operator := ⟨.default, .default, .empty, .empty⟩
  let ran := ((ofOperator operator).runCycles? threeCycles).get (by decide +kernel)
  have run : (ofOperator operator).runCycles? threeCycles = some (ran.1, ran.2) :=
    (Option.some_get _).symm
  let record := ran.2[0]?.get (by decide +kernel)
  let later := ran.2[2]?.get (by decide +kernel)
  have here : ran.2[0]? = some record := (Option.some_get _).symm
  have there : ran.2[2]? = some later := (Option.some_get _).symm
  let outcome := record.outcomes[0]?.get (by decide +kernel)
  have mem : outcome ∈ record.outcomes :=
    List.mem_of_getElem? (Option.some_get (by decide +kernel)).symm
  have applied : outcome.statuses.get .memory = .applied := by decide +kernel
  have touches : later.Touches (outcome.plan.container, .memory) := by decide +kernel
  have clean : ∀ cycle ∈ threeCycles, cycle.observation.IsClean := by decide +kernel
  have ordered : threeCycles.Pairwise fun first second => first.now ≤ second.now := by
    decide +kernel
  have changed : Operator.onCycleClock record.cycle.now record.cycle.wall
      outcome.appliedAt.instant = instantAt 2 := by decide +kernel
  obtain ⟨-, respected⟩ := cooldown_respected (by decide +kernel) clean ordered run 0 record
    outcome .memory here mem applied
  have expired := respected 2 later (by decide) there touches
  rw [changed] at expired
  exact ⟨ran.1, ran.2, record, outcome, later, run, by decide +kernel, here, mem, applied, there,
    touches, expired⟩

end Controller

end PodSizing
