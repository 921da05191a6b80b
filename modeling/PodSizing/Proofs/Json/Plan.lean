import PodSizing.Json.Plan
import PodSizing.Proofs.Instant.Timestamp
import PodSizing.Proofs.Json.Faithful

/-!
# Plans and reports are read as they were written

The forms of containers, plans and reports are faithful for all texts, statuses and instants, for
amounts and counts of 64 bits and for finite utilizations.  `Fits` says so for each type, and the
theorems `faithful` go from the parts of a record to the record.
-/

namespace PodSizing

open Json

/-! ### Containers -/

theorem PodId.faithful : Faithful toJson ofJson? fun _ => True := by
  refine .record ?distinct ?proper ?read_write ?fits
  case distinct => simp
  case proper => simp [IsProper.string]
  case read_write =>
    intro pod _
    rfl
  case fits => simp

example : PodId.ofJson? (.object
    [("name", .string "web-0"), ("note", .null), ("namespace", .string "default")]) =
      PodId.ofJson? (PodId.toJson ⟨"default", "web-0"⟩) := rfl

theorem ContainerId.faithful : Faithful toJson ofJson? fun _ => True := by
  refine .record ?distinct ?proper ?read_write ?fits
  case distinct => simp
  case proper =>
    intro id _
    simp [PodId.faithful.proper trivial, IsProper.string]
  case read_write =>
    intro id _
    simp [List.lookup_cons, PodId.faithful.required_encode trivial,
      faithful_text.required_encode trivial]
  case fits => simp

/-- Request and limit have 64 bits. -/
structure Allocation.Fits (allocation : Allocation) : Prop where
  request : IsWord allocation.request
  limit : IsWord allocation.limit

theorem Allocation.faithful : Faithful toJson ofJson? Fits := by
  refine .record ?distinct ?proper ?read_write ?fits
  case distinct => simp
  case proper =>
    intro allocation fits
    simp [faithful_word.proper fits.request, faithful_word.proper fits.limit]
  case read_write =>
    intro allocation fits
    simp [List.lookup_cons, faithful_word.required_encode fits.request,
      faithful_word.required_encode fits.limit]
  case fits =>
    intro entries allocation proper read
    split at read
    · simp only [bind, Option.bind_eq_some_iff, Option.some.injEq] at read
      obtain ⟨_, request, _, limit, rfl⟩ := read
      exact ⟨faithful_word.required_fits (proper _ (by simp)) request,
        faithful_word.required_fits (proper _ (by simp)) limit⟩
    · exact absurd read (by simp)

/-- What is configured has 64 bits. -/
structure Target.Fits (target : Target) : Prop where
  cpu : target.allocation.cpu.Fits
  memory : target.allocation.memory.Fits

theorem Target.faithful : Faithful toJson ofJson? Fits := by
  refine .record ?distinct ?proper ?read_write ?fits
  case distinct => simp
  case proper =>
    intro target fits
    simp [ContainerId.faithful.proper trivial, Allocation.faithful.proper fits.cpu,
      Allocation.faithful.proper fits.memory]
  case read_write =>
    intro target fits
    simp [List.lookup_cons, ContainerId.faithful.required_encode trivial,
      Allocation.faithful.required_encode fits.cpu,
      Allocation.faithful.required_encode fits.memory]
  case fits =>
    intro entries target proper read
    split at read
    · simp only [bind, Option.bind_eq_some_iff, Option.some.injEq] at read
      obtain ⟨_, _, _, cpu, _, memory, rfl⟩ := read
      exact ⟨Allocation.faithful.required_fits (proper _ (by simp)) cpu,
        Allocation.faithful.required_fits (proper _ (by simp)) memory⟩
    · exact absurd read (by simp)

/-- Usage and what is configured have 64 bits. -/
structure Sample.Fits (sample : Sample) : Prop where
  cpuUsage : IsWord sample.usage.cpu
  memoryUsage : IsWord sample.usage.memory
  cpu : sample.allocation.cpu.Fits
  memory : sample.allocation.memory.Fits

theorem Sample.faithful : Faithful toJson ofJson? Fits := by
  refine .record ?distinct ?proper ?read_write ?fits
  case distinct => simp
  case proper =>
    intro sample fits
    simp [ContainerId.faithful.proper trivial, faithful_word.proper fits.cpuUsage,
      faithful_word.proper fits.memoryUsage, Allocation.faithful.proper fits.cpu,
      Allocation.faithful.proper fits.memory]
  case read_write =>
    intro sample fits
    simp [List.lookup_cons, ContainerId.faithful.required_encode trivial,
      faithful_word.required_encode fits.cpuUsage,
      faithful_word.required_encode fits.memoryUsage,
      Allocation.faithful.required_encode fits.cpu,
      Allocation.faithful.required_encode fits.memory]
  case fits =>
    intro entries sample proper read
    split at read
    · simp only [bind, Option.bind_eq_some_iff, Option.some.injEq] at read
      obtain ⟨_, _, _, cpuUsage, _, memoryUsage, _, cpu, _, memory, rfl⟩ := read
      exact ⟨faithful_word.required_fits (proper _ (by simp)) cpuUsage,
        faithful_word.required_fits (proper _ (by simp)) memoryUsage,
        Allocation.faithful.required_fits (proper _ (by simp)) cpu,
        Allocation.faithful.required_fits (proper _ (by simp)) memory⟩
    · exact absurd read (by simp)

/-! ### Plans -/

theorem Dimension.faithful : Faithful toJson ofJson? fun _ => True := faithful_name ofName?_name

theorem Verdict.faithful : Faithful toJson ofJson? fun _ => True := faithful_name ofName?_name

/-- The values have 64 bits, and the utilization is finite. -/
structure Decision.Fits (decision : Decision) : Prop where
  current : IsWord decision.current
  target : IsWord decision.target
  utilization : decision.utilization.isFinite = true

theorem Decision.faithful : Faithful toJson ofJson? Fits := by
  refine .record ?distinct ?proper ?read_write ?fits
  case distinct => simp
  case proper =>
    intro decision fits
    simp [Dimension.faithful.proper trivial, Verdict.faithful.proper trivial,
      faithful_word.proper fits.current, faithful_word.proper fits.target,
      faithful_real.proper fits.utilization]
  case read_write =>
    intro decision fits
    simp [List.lookup_cons, Dimension.faithful.required_encode trivial,
      Verdict.faithful.required_encode trivial, faithful_word.required_encode fits.current,
      faithful_word.required_encode fits.target, faithful_real.required_encode fits.utilization]
  case fits =>
    intro entries decision proper read
    split at read
    · simp only [bind, Option.bind_eq_some_iff, Option.some.injEq] at read
      obtain ⟨_, _, _, _, _, current, _, target, _, utilization, rfl⟩ := read
      exact ⟨faithful_word.required_fits (proper _ (by simp)) current,
        faithful_word.required_fits (proper _ (by simp)) target,
        faithful_real.required_fits (proper _ (by simp)) utilization⟩
    · exact absurd read (by simp)

/-- The decisions and what they were taken against fit. -/
structure Plan.Fits (plan : Plan) : Prop where
  cpu : plan.decisions.cpu.Fits
  memory : plan.decisions.memory.Fits
  cpuAllocation : plan.allocation.cpu.Fits
  memoryAllocation : plan.allocation.memory.Fits

theorem Plan.faithful : Faithful toJson ofJson? Fits := by
  refine .record ?distinct ?proper ?read_write ?fits
  case distinct => simp
  case proper =>
    intro plan fits
    simp [ContainerId.faithful.proper trivial, Decision.faithful.proper fits.cpu,
      Decision.faithful.proper fits.memory, Allocation.faithful.proper fits.cpuAllocation,
      Allocation.faithful.proper fits.memoryAllocation]
  case read_write =>
    intro plan fits
    simp [List.lookup_cons, ContainerId.faithful.required_encode trivial,
      Decision.faithful.required_encode fits.cpu, Decision.faithful.required_encode fits.memory,
      Allocation.faithful.required_encode fits.cpuAllocation,
      Allocation.faithful.required_encode fits.memoryAllocation]
  case fits =>
    intro entries plan proper read
    split at read
    · simp only [bind, Option.bind_eq_some_iff, Option.some.injEq] at read
      obtain ⟨_, _, _, cpu, _, memory, _, cpuAllocation, _, memoryAllocation, rfl⟩ := read
      exact ⟨Decision.faithful.required_fits (proper _ (by simp)) cpu,
        Decision.faithful.required_fits (proper _ (by simp)) memory,
        Allocation.faithful.required_fits (proper _ (by simp)) cpuAllocation,
        Allocation.faithful.required_fits (proper _ (by simp)) memoryAllocation⟩
    · exact absurd read (by simp)

/-! ### Outcomes -/

theorem SkipReason.faithful : Faithful toJson ofJson? fun _ => True := faithful_name ofName?_name

/-- In an object the label says what the reason is. -/
private theorem Status.ofJson?_ofFields {fields : List (String × Json)}
    (distinct : (fields.map Prod.fst).Nodup) :
    ofJson? (ofFields fields) =
      (required asName? (.ofOption (fields.lookup "status"))).bind fun label =>
        ofEntries? asEmptyName? label (.ofOption (fields.lookup "reason")) := by
  rw [ofJson?, entries?_ofFields _ distinct]
  rfl

theorem Status.faithful : Faithful toJson ofJson? fun _ => True where
  proper {status} _ := by
    cases status with
    | applied => exact isProper_ofFields (by simp [IsProper.string])
    | skipped reason =>
        exact isProper_ofFields (by simp [IsProper.string, SkipReason.faithful.proper trivial])
    | failed reason => exact isProper_ofFields (by simp [IsProper.string])
  decode_encode {status} _ := by
    cases status with
    | applied =>
        rw [toJson, ofJson?_ofFields (by simp)]
        rfl
    | skipped reason =>
        rw [toJson, ofJson?_ofFields (by simp)]
        cases reason <;> rfl
    | failed reason =>
        rw [toJson, ofJson?_ofFields (by simp)]
        rfl
  fits _ _ := trivial

example : Status.ofJson? (.array [.string "skipped", .object [("dry_run", .null)]]) =
    Status.ofJson? (Status.toJson (.skipped .dryRun)) := rfl

theorem Timestamp.faithful : Faithful toJson ofJson? fun _ => True where
  proper _ := .string _
  decode_encode {timestamp} _ := by
    simp only [toJson, ofJson?, asText?, bind, Option.bind_some, ofText_toText]
    rfl
  fits _ _ := trivial

/-- The plan fits. -/
def Outcome.Fits (outcome : Outcome) : Prop := outcome.plan.Fits

theorem Outcome.faithful : Faithful toJson ofJson? Fits := by
  refine .record ?distinct ?proper ?read_write ?fits
  case distinct => simp
  case proper =>
    intro outcome fits
    simp [Plan.faithful.proper fits, Status.faithful.proper trivial,
      Timestamp.faithful.proper trivial]
  case read_write =>
    intro outcome fits
    simp [List.lookup_cons, Plan.faithful.required_encode fits,
      Status.faithful.required_encode trivial, Timestamp.faithful.required_encode trivial]
  case fits =>
    intro entries outcome proper read
    split at read
    · simp only [bind, Option.bind_eq_some_iff, Option.some.injEq] at read
      obtain ⟨_, plan, _, _, _, _, _, _, rfl⟩ := read
      exact Plan.faithful.required_fits (proper _ (by simp)) plan
    · exact absurd read (by simp)

/-- The counts have 64 bits, and the outcomes fit. -/
structure CycleReport.Fits (report : CycleReport) : Prop where
  evaluated : IsWord report.evaluated
  unavailable : IsWord report.unavailable
  plansBuilt : IsWord report.plansBuilt
  plansDeferred : IsWord report.plansDeferred
  outcomes : ∀ outcome ∈ report.outcomes, outcome.Fits

theorem CycleReport.faithful : Faithful toJson ofJson? Fits := by
  refine .record ?distinct ?proper ?read_write ?fits
  case distinct => simp
  case proper =>
    intro report fits
    simp [Timestamp.faithful.proper trivial, faithful_word.proper fits.evaluated,
      faithful_word.proper fits.unavailable, faithful_word.proper fits.plansBuilt,
      faithful_word.proper fits.plansDeferred, Outcome.faithful.list.proper fits.outcomes]
  case read_write =>
    intro report fits
    simp [List.lookup_cons, Timestamp.faithful.required_encode trivial,
      faithful_word.required_encode fits.evaluated,
      faithful_word.required_encode fits.unavailable,
      faithful_word.required_encode fits.plansBuilt,
      faithful_word.required_encode fits.plansDeferred,
      Outcome.faithful.list.required_encode fits.outcomes]
  case fits =>
    intro entries report proper read
    split at read
    · simp only [bind, Option.bind_eq_some_iff, Option.some.injEq] at read
      obtain ⟨_, _, _, evaluated, _, unavailable, _, built, _, deferred, _, outcomes, rfl⟩ := read
      exact ⟨faithful_word.required_fits (proper _ (by simp)) evaluated,
        faithful_word.required_fits (proper _ (by simp)) unavailable,
        faithful_word.required_fits (proper _ (by simp)) built,
        faithful_word.required_fits (proper _ (by simp)) deferred,
        Outcome.faithful.list.required_fits (proper _ (by simp)) outcomes⟩
    · exact absurd read (by simp)

end PodSizing
