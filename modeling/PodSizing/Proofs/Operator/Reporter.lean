import PodSizing.Operator.Reporter
import PodSizing.Proofs.Lookup
import PodSizing.Proofs.Operator.Failure
import PodSizing.Proofs.Operator.Health

/-!
# Counters, events and summaries

Three traversals of a report say what became of its dimensions: the counters take the dimensions
that were to be resized, the events tell of all that is not left as it is, and the summary counts
all statuses.  That they agree rests on a property of the outcomes, `Outcome.IsProper`: a dimension
that was not to be resized is reported as unchanged, whatever came of the plan.
-/

namespace PodSizing

/-- The dimension was to be resized and has a status of the label. -/
def Outcome.Ends (outcome : Outcome) (dimension : Dimension) (label : String) : Prop :=
  dimension ∈ outcome.plan.changing ∧ (outcome.statuses.get dimension).label = label

instance (outcome : Outcome) (dimension : Dimension) (label : String) :
    Decidable (outcome.Ends dimension label) :=
  inferInstanceAs (Decidable (_ ∧ _))

variable {outcome : Outcome} {report : CycleReport} {dimension : Dimension} {label : String}

/-! ### Counters -/

namespace StatusCounts

/-- The number of statuses with the label; there are none with a label of no status. -/
def count (counts : StatusCounts) (label : String) : Nat := (counts.labelled.lookup label).getD 0

theorem count_add (counts : StatusCounts) (status : Status) (label : String) :
    (counts.add status).count label =
      counts.count label + if status.label = label then 1 else 0 := by
  simp only [count, labelled, lookup_cons_eq_ite, List.lookup_nil]
  cases status <;> simp only [add, Status.label] <;> grind

end StatusCounts

namespace Metrics

/-- The counter of a dimension for a label. -/
def resizeCount (metrics : Metrics) (dimension : Dimension) (label : String) : Nat :=
  (metrics.outcomes.get dimension).count label

/-- The counters are published, each under the names of its dimension and its label. -/
theorem resizeCount_mem_samples (metrics : Metrics) (dimension : Dimension) (status : Status) :
    ("rightsizer_resize_outcomes_total\x7bdimension=\"" ++ dimension.name ++ "\",status=\"" ++
      status.label ++ "\"\x7d", metrics.resizeCount dimension status.label) ∈ metrics.samples := by
  have labelled : (status.label, metrics.resizeCount dimension status.label) ∈
      (metrics.outcomes.get dimension).labelled := by
    cases status <;> simp [resizeCount, StatusCounts.count, StatusCounts.labelled, Status.label,
      List.lookup_cons]
  rw [samples]
  simp only [List.mem_append, List.mem_flatMap, List.mem_map]
  exact .inl (.inr ⟨dimension, dimension.mem_all, _, labelled, rfl⟩)

theorem resizeCount_addStatus (metrics : Metrics) (counted : Dimension) (status : Status) :
    (metrics.addStatus counted status).resizeCount dimension label =
      metrics.resizeCount dimension label +
        if dimension = counted ∧ status.label = label then 1 else 0 := by
  simp only [resizeCount, addStatus, PerDimension.get_set]
  by_cases same : dimension = counted
  · subst same
    simp [StatusCounts.count_add]
  · simp [same]

/-- Counting the statuses of several dimensions counts that of each as often as it is named. -/
theorem resizeCount_foldl_addStatus (metrics : Metrics) (statuses : Statuses)
    (dimensions : List Dimension) :
    (dimensions.foldl (fun metrics counted => metrics.addStatus counted (statuses.get counted))
        metrics).resizeCount dimension label =
      metrics.resizeCount dimension label +
        if (statuses.get dimension).label = label then dimensions.count dimension else 0 := by
  induction dimensions generalizing metrics with
  | nil => simp
  | cons counted rest ih =>
      rw [List.foldl_cons, ih, resizeCount_addStatus, List.count_cons]
      by_cases same : counted = dimension
      · subst same
        by_cases labelled : (statuses.get counted).label = label
        · simp only [labelled, BEq.rfl, if_true, and_self]
          omega
        · simp [labelled]
      · simp [same, Ne.symm same]

theorem resizeCount_addOutcome (metrics : Metrics) (outcome : Outcome) :
    (metrics.addOutcome outcome).resizeCount dimension label =
      metrics.resizeCount dimension label + if outcome.Ends dimension label then 1 else 0 := by
  have nodup : outcome.plan.changing.Nodup :=
    List.Pairwise.filter _ (by decide : Dimension.all.Nodup)
  rw [addOutcome, resizeCount_foldl_addStatus, nodup.count]
  by_cases labelled : (outcome.statuses.get dimension).label = label
  · simp [Outcome.Ends, labelled]
  · simp [Outcome.Ends, labelled]

theorem resizeCount_foldl_addOutcome (metrics : Metrics) (outcomes : List Outcome) :
    (outcomes.foldl addOutcome metrics).resizeCount dimension label =
      metrics.resizeCount dimension label +
        outcomes.countP fun outcome => outcome.Ends dimension label := by
  induction outcomes generalizing metrics with
  | nil => rfl
  | cons outcome rest ih =>
      rw [List.foldl_cons, ih, resizeCount_addOutcome, List.countP_cons]
      simp only [decide_eq_true_eq]
      omega

/-- The other numbers of a report do not reach the counters of the dimensions. -/
theorem outcomes_numbers (metrics : Metrics) (evaluated built deferred : Nat) :
    (((metrics.setContainersEvaluated evaluated).setPlansBuilt built).addDeferred
      deferred).outcomes = metrics.outcomes := by
  -- With a bare variable the numbers themselves would be compared, which are large.
  cases metrics
  rfl

theorem resizeCount_addReport (metrics : Metrics) (report : CycleReport) :
    (metrics.addReport report).resizeCount dimension label =
      metrics.resizeCount dimension label +
        report.outcomes.countP fun outcome => outcome.Ends dimension label := by
  rw [addReport, resizeCount_foldl_addOutcome, resizeCount, outcomes_numbers, ← resizeCount]

end Metrics

/-! ### Events -/

/-- The event tells how the dimension of a container ended, with a status of the label. -/
def Event.Tells (dimension : Dimension) (label : String) (event : Event) : Prop :=
  event.fields.lookup "event" = some (.text ("resize_" ++ label)) ∧
    event.fields.lookup "dimension" = some (.text dimension.name)

instance (dimension : Dimension) (label : String) : DecidablePred (Event.Tells dimension label) :=
  fun _ => inferInstanceAs (Decidable (_ ∧ _))

/-- The number of events that tell of the dimension and the label. -/
def Event.tellings (dimension : Dimension) (label : String) (events : List Event) : Nat :=
  events.countP fun event => event.Tells dimension label

theorem Event.tellings_append (first second : List Event) :
    tellings dimension label (first ++ second) =
      tellings dimension label first + tellings dimension label second :=
  List.countP_append

/-- The event is the summary of a cycle. -/
def Event.IsSummary (event : Event) : Prop :=
  event.fields.lookup "event" = some (.text "cycle_completed")

instance : DecidablePred Event.IsSummary := fun _ => inferInstanceAs (Decidable (_ = _))

namespace Journal

variable (operator : String)

theorem lookup_dimension (outcome : Outcome) (dimension : Dimension) :
    (Journal.dimension operator outcome dimension).fields.lookup "dimension" =
      some (.text dimension.name) := by
  unfold Journal.dimension
  cases outcome.statuses.get dimension with
  | applied | failed => simp [List.lookup_cons]
  | skipped =>
      dsimp only
      split <;> simp [List.lookup_cons]

/-- The kind of the event about a dimension is that of its status, unless the dimension was not to
be resized. -/
theorem lookup_event (proper : outcome.IsProper) (dimension : Dimension) :
    (Journal.dimension operator outcome dimension).fields.lookup "event" =
      if dimension ∈ outcome.plan.changing then
        some (.text ("resize_" ++ (outcome.statuses.get dimension).label))
      else none := by
  by_cases changing : dimension ∈ outcome.plan.changing
  · have isChange := Plan.mem_changing.mp changing
    unfold Journal.dimension
    rw [if_pos changing]
    cases outcome.statuses.get dimension with
    | applied | failed => simp [Status.label]
    | skipped => simp [Status.label, isChange]
  · have unchanged := proper dimension changing
    rw [Plan.mem_changing] at changing
    unfold Journal.dimension
    rw [unchanged]
    simp [changing, List.lookup_cons, Plan.mem_changing]

theorem tells_dimension_iff (proper : outcome.IsProper) (told : Dimension) :
    (Journal.dimension operator outcome told).Tells dimension label ↔
      told = dimension ∧ outcome.Ends dimension label := by
  rw [Event.Tells, lookup_event operator proper, lookup_dimension]
  simp only [Option.some.injEq, FieldValue.text.injEq, Dimension.name_inj, Outcome.Ends]
  constructor
  · rintro ⟨kind, rfl⟩
    split at kind
    · rename_i changing
      simp at kind
      exact ⟨rfl, changing, kind⟩
    · contradiction
  · rintro ⟨rfl, changing, rfl⟩
    exact ⟨if_pos changing, rfl⟩

/-- Of the events about an outcome one tells of the dimension if it was to be resized, and none
otherwise. -/
theorem tellings_outcome (proper : outcome.IsProper) :
    Event.tellings dimension label (Journal.outcome operator outcome) =
      if outcome.Ends dimension label then 1 else 0 := by
  simp only [Event.tellings, Journal.outcome, List.countP_map, Function.comp_def,
    tells_dimension_iff operator proper, Dimension.all, List.countP_cons, List.countP_nil]
  cases dimension <;> simp

/-- No event about a whole cycle tells of a dimension. -/
theorem tellings_completed (report : CycleReport) :
    Event.tellings dimension label [completed operator report] = 0 := by
  simp [Event.tellings, Event.Tells, completed, List.lookup_cons]

theorem tellings_failed (error : CycleError) :
    Event.tellings dimension label [failed operator error] = 0 := by
  simp [Event.tellings, Event.Tells, failed, List.lookup_cons]

/-- The events about a report tell of a dimension as often as its outcomes end so. -/
theorem tellings_report (proper : ∀ outcome ∈ report.outcomes, outcome.IsProper) :
    Event.tellings dimension label (Journal.report operator report) =
      report.outcomes.countP fun outcome => outcome.Ends dimension label := by
  have inOutcomes (outcomes : List Outcome) (proper : ∀ outcome ∈ outcomes, outcome.IsProper) :
      Event.tellings dimension label (outcomes.flatMap (Journal.outcome operator)) =
        outcomes.countP fun outcome => outcome.Ends dimension label := by
    induction outcomes with
    | nil => rfl
    | cons outcome rest ih =>
        obtain ⟨outcomeProper, restProper⟩ := List.forall_mem_cons.mp proper
        rw [List.flatMap_cons, Event.tellings_append, ih restProper,
          tellings_outcome operator outcomeProper, List.countP_cons]
        simp only [decide_eq_true_eq, Nat.add_comm]
  rw [Journal.report, Event.tellings_append, inOutcomes report.outcomes proper,
    tellings_completed, Nat.add_zero]

/-- One of the events about a report is its summary. -/
theorem filter_report (proper : ∀ outcome ∈ report.outcomes, outcome.IsProper) :
    (Journal.report operator report).filter (fun event => event.IsSummary) =
      [completed operator report] := by
  have noSummary : (report.outcomes.flatMap (Journal.outcome operator)).filter
      (fun event => event.IsSummary) = [] := by
    apply List.filter_eq_nil_iff.mpr
    intro event mem summary
    obtain ⟨outcome, outcomeMem, eventMem⟩ := List.mem_flatMap.mp mem
    obtain ⟨told, -, rfl⟩ := List.mem_map.mp eventMem
    rw [decide_eq_true_eq, Event.IsSummary,
      lookup_event operator (proper outcome outcomeMem)] at summary
    split at summary
    · cases status : outcome.statuses.get told <;> simp [status, Status.label] at summary
    · contradiction
  have isSummary : (completed operator report).IsSummary := by
    simp [Event.IsSummary, completed]
  rw [Journal.report, List.filter_append, noSummary, List.nil_append]
  exact List.filter_cons_of_pos (decide_eq_true isSummary)

/-- The numbers in a summary are those of the statuses. -/
theorem lookup_label_completed (report : CycleReport) (status : Status) :
    (completed operator report).fields.lookup status.label =
      some (.natural (report.countStatus status.label)) := by
  cases status <;> simp [completed, Status.label, List.lookup_cons]

end Journal

/-! ### Summaries -/

namespace CycleReport

/-- The dimensions of all outcomes that were not to be resized. -/
def unchanged (report : CycleReport) : Nat :=
  (Dimension.all.map fun dimension =>
    report.outcomes.countP fun outcome => dimension ∉ outcome.plan.changing).sum

/-- The statuses of a label, dimension by dimension. -/
theorem countStatus_eq_sum (report : CycleReport) (label : String) :
    report.countStatus label =
      (Dimension.all.map fun dimension => report.outcomes.countP fun outcome =>
        (outcome.statuses.get dimension).label == label).sum := by
  rw [countStatus, ← List.countP_eq_length_filter]
  induction report.outcomes with
  | nil => rfl
  | cons outcome rest ih =>
      rw [List.flatMap_cons, List.countP_append, ih]
      simp only [Dimension.all, List.map_cons, List.map_nil, List.sum_cons, List.sum_nil,
        List.countP_cons, List.countP_nil, PerDimension.toList, PerDimension.get]
      omega

/-- Every status has one of three labels. -/
theorem countStatus_add (report : CycleReport) :
    report.countStatus "applied" + report.countStatus "skipped" + report.countStatus "failed" =
      2 * report.outcomes.length := by
  have each (statuses : List Status) :
      let labelled (label : String) := (statuses.filter fun status => status.label == label).length
      labelled "applied" + labelled "skipped" + labelled "failed" = statuses.length := by
    induction statuses with
    | nil => rfl
    | cons status rest ih =>
        simp only [List.filter_cons, List.length_cons] at ih ⊢
        rw [← ih]
        cases status <;> simp [Status.label] <;> omega
  have both : (report.outcomes.flatMap fun outcome => outcome.statuses.toList).length =
      2 * report.outcomes.length := by
    rw [List.length_flatMap, Nat.mul_comm, ← List.sum_replicate_nat, ← List.map_const']
    rfl
  exact (each _).trans both

/-- A status of a dimension that was to be resized is counted under its label, that of any other as
a skip. -/
theorem label_eq_iff (proper : outcome.IsProper) :
    (outcome.statuses.get dimension).label = label ↔
      outcome.Ends dimension label ∨ (dimension ∉ outcome.plan.changing ∧ label = "skipped") := by
  by_cases changing : dimension ∈ outcome.plan.changing
  · simp [Outcome.Ends, changing]
  · simp [Outcome.Ends, changing, proper dimension changing, Status.label, eq_comm]

theorem countP_label {outcomes : List Outcome} (proper : ∀ outcome ∈ outcomes, outcome.IsProper) :
    (outcomes.countP fun outcome => (outcome.statuses.get dimension).label == label) =
      (outcomes.countP fun outcome => outcome.Ends dimension label) +
        if label = "skipped" then outcomes.countP fun outcome => dimension ∉ outcome.plan.changing
        else 0 := by
  induction outcomes with
  | nil => simp
  | cons outcome rest ih =>
      obtain ⟨outcomeProper, restProper⟩ := List.forall_mem_cons.mp proper
      simp only [List.countP_cons, ih restProper, decide_eq_true_eq, beq_iff_eq,
        label_eq_iff outcomeProper]
      by_cases changing : dimension ∈ outcome.plan.changing
      · simp [changing, Nat.add_right_comm]
      · by_cases skipped : label = "skipped"
        · simp [Outcome.Ends, changing, skipped, Nat.add_assoc]
        · simp [changing, skipped]

/-- A summary counts what became of the dimensions that were to be resized, and the others as
skipped. -/
theorem countStatus_eq (proper : ∀ outcome ∈ report.outcomes, outcome.IsProper) (label : String) :
    report.countStatus label =
      (Dimension.all.map fun dimension =>
        report.outcomes.countP fun outcome => outcome.Ends dimension label).sum +
      if label = "skipped" then report.unchanged else 0 := by
  rw [countStatus_eq_sum, unchanged]
  simp only [countP_label proper, Dimension.all, List.map_cons, List.map_nil, List.sum_cons,
    List.sum_nil]
  by_cases skipped : label = "skipped"
  · simp only [skipped, if_true]
    omega
  · simp only [skipped, if_false, Nat.add_zero]

/-! ### Reports of cycles -/

/-- The report has come of a cycle of a controller that can be reached. -/
def IsProduced (report : CycleReport) : Prop :=
  ∃ (controller next : Controller) (cycle : Cycle) (record : CycleRecord),
    controller.IsReachable ∧ controller.runCycle? cycle = some (next, record) ∧
      record.result = .ok report

theorem IsProduced.proper (produced : report.IsProduced) :
    ∀ outcome ∈ report.outcomes, outcome.IsProper := by
  obtain ⟨controller, next, cycle, record, reachable, ran, reports⟩ := produced
  cases (Controller.CycleStep.of_runCycle? reachable ran).1 with
  | failed policy cooldowns => cases reports
  | applied observed policy cooldowns accounts proper outcomes =>
      cases reports
      rwa [outcomes]

/-- The events about a report, the summary among them and the growth of the counters agree with each
other and with its outcomes. -/
structure ToldAlike (report : CycleReport) (events : List Event) (before after : Metrics) :
    Prop where
  told : ∀ dimension label, Event.tellings dimension label events =
    report.outcomes.countP fun outcome => outcome.Ends dimension label
  counted : ∀ dimension label, after.resizeCount dimension label =
    before.resizeCount dimension label + Event.tellings dimension label events
  summarized : ∃ summary applied skipped failed,
    events.filter (fun event => event.IsSummary) = [summary] ∧
    summary.fields.lookup "applied" = some (.natural applied) ∧
    summary.fields.lookup "skipped" = some (.natural skipped) ∧
    summary.fields.lookup "failed" = some (.natural failed) ∧
    (let told (label : String) : Nat :=
      (Dimension.all.map fun dimension => Event.tellings dimension label events).sum
    applied = told "applied" ∧ skipped = told "skipped" + report.unchanged ∧
      failed = told "failed") ∧
    applied + skipped + failed = 2 * report.outcomes.length

theorem toldAlike_of_proper (proper : ∀ outcome ∈ report.outcomes, outcome.IsProper)
    (operator : String) (metrics : Metrics) :
    report.ToldAlike (Journal.report operator report) metrics (metrics.addReport report) where
  told _ _ := Journal.tellings_report operator proper
  counted dimension label := by
    rw [Metrics.resizeCount_addReport, Journal.tellings_report operator proper]
  summarized := by
    have number := Journal.lookup_label_completed operator report
    refine ⟨Journal.completed operator report, _, _, _, Journal.filter_report operator proper,
      number .applied, number (.skipped .noChange), number (.failed ""), ?_,
      report.countStatus_add⟩
    simp only [Journal.tellings_report operator proper]
    exact ⟨countStatus_eq proper "applied", countStatus_eq proper "skipped",
      countStatus_eq proper "failed"⟩

end CycleReport

/-- All reports of which a reporter was told during a run are those of cycles. -/
theorem Reconciler.isProduced_of_reconcileAll? {reconciler last : Reconciler} {cycles : List Cycle}
    {records : List CycleRecord} (reachable : reconciler.controller.IsReachable)
    (produced : ∀ report, .completed report ∈ reconciler.notices → report.IsProduced)
    (ran : reconciler.reconcileAll? cycles = some (last, records)) :
    ∀ report, .completed report ∈ last.notices → report.IsProduced := by
  induction cycles generalizing reconciler records with
  | nil =>
      cases ran
      exact produced
  | cons cycle rest ih =>
      obtain ⟨next, record, others, first, run, rfl⟩ := reconcileAll?_cons_eq_some_iff.mp ran
      apply ih (isReachable_of_reconcile? reachable first) _ run
      obtain ⟨after, ran, -, notices⟩ := reconcile?_eq_some_iff.mp first
      intro report told
      rw [notices, List.mem_append, List.mem_singleton] at told
      rcases told with earlier | now
      · exact produced report earlier
      · refine ⟨_, _, _, _, reachable, ran, ?_⟩
        cases result : record.result <;> rw [result] at now <;> cases now
        rfl

/-! ### Sequences of notices -/

/-- The events about what is told of a cycle. -/
def Notice.events (operator : String) : Notice → List Event
  | .completed report => Journal.report operator report
  | .failed _ error => [Journal.failed operator error]

namespace LogReporter

theorem operator_tell (reporter : LogReporter) (notice : Notice) :
    (reporter.tell notice).operator = reporter.operator := by
  cases notice <;> rfl

theorem events_tell (reporter : LogReporter) (notice : Notice) :
    (reporter.tell notice).events = reporter.events ++ notice.events reporter.operator := by
  cases notice <;> rfl

theorem tellAll_concat (reporter : LogReporter) (notices : List Notice) (notice : Notice) :
    reporter.tellAll (notices ++ [notice]) = (reporter.tellAll notices).tell notice := by
  rw [tellAll, tellAll, List.foldl_append]
  rfl

/-- The journal is kept in the order of the notices. -/
theorem events_tellAll (reporter : LogReporter) (notices : List Notice) :
    (reporter.tellAll notices).events =
      reporter.events ++ notices.flatMap (Notice.events reporter.operator) := by
  induction notices generalizing reporter with
  | nil => exact (List.append_nil _).symm
  | cons notice rest ih =>
      rw [tellAll, List.foldl_cons, ← tellAll, ih, events_tell, operator_tell, List.flatMap_cons,
        List.append_assoc]

/-- The counters grow by the number of events that are written for one notice. -/
theorem resizeCount_tell (reporter : LogReporter) {notice : Notice}
    (produced : ∀ report, notice = .completed report → report.IsProduced) :
    (reporter.tell notice).metrics.resizeCount dimension label =
      reporter.metrics.resizeCount dimension label +
        Event.tellings dimension label (notice.events reporter.operator) := by
  cases notice with
  | completed report =>
      have toldAlike := CycleReport.toldAlike_of_proper (produced report rfl).proper
        reporter.operator reporter.metrics
      exact toldAlike.counted dimension label
  | failed now error =>
      rw [Notice.events, Journal.tellings_failed]
      rfl

/-- So they are running sums over all that is told. -/
theorem resizeCount_tellAll (reporter : LogReporter) {notices : List Notice}
    (produced : ∀ report, .completed report ∈ notices → report.IsProduced) :
    (reporter.tellAll notices).metrics.resizeCount dimension label =
      reporter.metrics.resizeCount dimension label +
        (notices.map fun notice =>
          Event.tellings dimension label (notice.events reporter.operator)).sum := by
  induction notices generalizing reporter with
  | nil => rfl
  | cons notice rest ih =>
      have first : ∀ report, notice = .completed report → report.IsProduced :=
        fun report told => produced report (told ▸ List.mem_cons_self)
      rw [tellAll, List.foldl_cons, ← tellAll,
        ih _ fun report mem => produced report (List.mem_cons_of_mem _ mem),
        resizeCount_tell reporter first, operator_tell, List.map_cons, List.sum_cons,
        Nat.add_assoc]

/-- Whatever reports of cycles a reporter is told, between failures or not: the events tell of every
dimension as its outcomes ended, and its counters grow by the number of these events.  The summary
has their numbers in both dimensions and counts the dimensions that were not to be resized as
skipped, so that its numbers make up two for each outcome.  After any number of notices the journal
holds the events about all of them, and the counters are the sums over them. -/
theorem counters_events_and_summaries_agree (reporter : LogReporter) {notices : List Notice}
    (produced : ∀ report, .completed report ∈ notices → report.IsProduced) :
    (∀ earlier report later, notices = earlier ++ .completed report :: later →
      let before := reporter.tellAll earlier
      let after := reporter.tellAll (earlier ++ [.completed report])
      ∃ events, after.events = before.events ++ events ∧
        report.ToldAlike events before.metrics after.metrics) ∧
    (reporter.tellAll notices).events =
      reporter.events ++ notices.flatMap (Notice.events reporter.operator) ∧
    ∀ dimension label,
      (reporter.tellAll notices).metrics.resizeCount dimension label =
        reporter.metrics.resizeCount dimension label +
          (notices.map fun notice =>
            Event.tellings dimension label (notice.events reporter.operator)).sum := by
  refine ⟨?_, reporter.events_tellAll notices, fun _ _ => resizeCount_tellAll reporter produced⟩
  rintro earlier report later rfl
  have proper := (produced report (by simp)).proper
  simp only [tellAll_concat]
  exact ⟨_, rfl, CycleReport.toldAlike_of_proper proper _ _⟩

/-- In a run with two reports and three failures between them, the memory of the only pod is once
not resized and once resized, and its CPU is both times left as it is. -/
theorem counters_events_and_summaries_agree_sick_and_cured :
    ∃ last records,
      (Reconciler.ofOperator ⟨.default, .default, .empty, .empty⟩).reconcileAll?
        Reconciler.sickAndCured = some (last, records) ∧
      let reporter : LogReporter := ⟨"right-sizer", .empty, []⟩
      let told := reporter.tellAll last.notices
      (∀ report, .completed report ∈ last.notices → report.IsProduced) ∧
      told.metrics.resizeCount .memory "failed" = 1 ∧
      told.metrics.resizeCount .memory "applied" = 1 ∧
      told.metrics.resizeCount .cpu "skipped" = 0 ∧
      ∃ events summary applied skipped failed,
        (reporter.tellAll (last.notices.take 1)).events = events ∧
        events.filter (fun event => event.IsSummary) = [summary] ∧
        summary.fields.lookup "applied" = some (.natural applied) ∧
        summary.fields.lookup "skipped" = some (.natural skipped) ∧
        summary.fields.lookup "failed" = some (.natural failed) ∧
        applied + skipped + failed = 2 := by
  let reconciler := Reconciler.ofOperator ⟨.default, .default, .empty, .empty⟩
  let reporter : LogReporter := ⟨"right-sizer", .empty, []⟩
  let run := (reconciler.reconcileAll? Reconciler.sickAndCured).get (by decide +kernel)
  have ran : reconciler.reconcileAll? Reconciler.sickAndCured = some (run.1, run.2) :=
    (Option.some_get _).symm
  have untold : ∀ report, .completed report ∈ reconciler.notices → report.IsProduced :=
    fun _ told => absurd told List.not_mem_nil
  have produced : ∀ report, .completed report ∈ run.1.notices → report.IsProduced :=
    Reconciler.isProduced_of_reconcileAll? (Controller.isReachable_ofOperator _) untold ran
  let report := (run.2.filterMap fun record => record.result.toOption)[0]?.get (by decide +kernel)
  have begun : run.1.notices = [] ++ .completed report :: run.1.notices.drop 1 := by
    decide +kernel
  have oneOutcome : report.outcomes.length = 1 := by decide +kernel
  obtain ⟨told, -, sums⟩ := counters_events_and_summaries_agree reporter produced
  obtain ⟨events, written, alike⟩ := told [] report _ begun
  obtain ⟨summary, applied, skipped, failed, only, appliedNumber, skippedNumber, failedNumber, -,
    total⟩ := alike.summarized
  refine ⟨run.1, run.2, ran, produced, (sums .memory "failed").trans (by decide +kernel),
    (sums .memory "applied").trans (by decide +kernel),
    (sums .cpu "skipped").trans (by decide +kernel), events, summary, applied, skipped, failed, ?_,
    only, appliedNumber, skippedNumber, failedNumber, total.trans (by rw [oneOutcome])⟩
  have taken : run.1.notices.take 1 = [] ++ [.completed report] := by decide +kernel
  rw [taken]
  exact written

end LogReporter

end PodSizing
