import PodSizing.Json.Health
import PodSizing.Proofs.Json.Plan

/-!
# Health is read as it was written

The forms of the health of the operator are faithful.  A value that is not known is left out and
read as such, and the parts of a report are a map: their names rise, as in any object.
-/

namespace PodSizing

open Json

section

variable {α : Type} (name : String) (encode : α → Json)

@[simp]
theorem knownField_none : knownField name encode none = [] := rfl

@[simp]
theorem knownField_some (value : α) :
    knownField name encode (some value) = [(name, encode value)] := rfl

end

theorem ComponentStatus.faithful : Faithful toJson ofJson? fun _ => True :=
  faithful_name ofName?_name

theorem ComponentHealth.faithful : Faithful toJson ofJson? fun _ => True := by
  refine .record ?distinct ?proper ?read_write ?fits
  case distinct =>
    rintro ⟨status, message, lastCheck⟩
    cases message <;> simp
  case proper =>
    rintro ⟨status, message, lastCheck⟩ _
    cases message <;>
      simp [ComponentStatus.faithful.proper trivial, IsProper.string,
        Timestamp.faithful.proper trivial]
  case read_write =>
    rintro ⟨status, message, lastCheck⟩ _
    have messageRead (text : String) :
        optional asText? (.value (.string text)) = some (some text) :=
      faithful_text.optional_encode trivial (by simp)
    cases message <;>
      simp [List.lookup_cons, ComponentStatus.faithful.required_encode trivial, messageRead,
        Timestamp.faithful.required_encode trivial]
  case fits => simp

/-- The failures have 32 bits. -/
def CycleHealth.Fits (cycles : CycleHealth) : Prop := cycles.consecutiveFailures < Nat.pow 2 32

/-- A count of failures. -/
private theorem faithful_failures :
    Faithful ofNat (asNatBelow? (Nat.pow 2 32)) (· < Nat.pow 2 32) :=
  faithful_natBelow (by decide)

theorem CycleHealth.faithful : Faithful toJson ofJson? Fits := by
  refine .record ?distinct ?proper ?read_write ?fits
  case distinct =>
    rintro ⟨lastSuccess, lastFailure, failures⟩
    cases lastSuccess <;> cases lastFailure <;> simp
  case proper =>
    rintro ⟨lastSuccess, lastFailure, failures⟩ fits
    cases lastSuccess <;> cases lastFailure <;>
      simp [Timestamp.faithful.proper trivial, faithful_failures.proper fits]
  case read_write =>
    rintro ⟨lastSuccess, lastFailure, failures⟩ fits
    have timeRead (time : Timestamp) :
        optional Timestamp.ofJson? (.value time.toJson) = some (some time) :=
      Timestamp.faithful.optional_encode trivial (by simp [Timestamp.toJson])
    cases lastSuccess <;> cases lastFailure <;>
      simp [List.lookup_cons, timeRead, faithful_failures.required_encode fits]
  case fits =>
    intro entries cycles proper read
    split at read
    · simp only [bind, Option.bind_eq_some_iff, Option.some.injEq] at read
      obtain ⟨_, _, _, _, _, failures, rfl⟩ := read
      exact faithful_failures.required_fits (proper _ (by simp)) failures
    · exact absurd read (by simp)

/-! ### The parts of a report -/

/-- The form of the parts of a report. -/
private def componentsJson (components : List (String × ComponentHealth)) : Json :=
  .ofFields (components.map fun (name, health) => (name, health.toJson))

private theorem rising_map {components : List (String × ComponentHealth)}
    (rising : Rising components) :
    Rising (components.map fun (name, health) => (name, health.toJson)) :=
  List.pairwise_map.mpr rising

private theorem components_faithful :
    Faithful componentsJson HealthReport.components? Rising where
  proper {components} rising := by
    refine isProper_ofFields fun field mem => ?_
    obtain ⟨⟨name, health⟩, -, rfl⟩ := List.mem_map.mp mem
    exact ComponentHealth.faithful.proper trivial
  decode_encode {components} rising := by
    have sorted := sortFields_of_rising (rising_map rising)
    rw [componentsJson, ofFields, sorted, HealthReport.components?, sorted]
    clear rising sorted
    induction components with
    | nil => rfl
    | cons component rest ih =>
        have read : (ComponentHealth.ofJson? component.2.toJson).map (component.1, ·) =
            some component := by
          rw [ComponentHealth.faithful.decode_encode trivial]
          rfl
        exact mapM_cons_eq_some_iff.mpr ⟨component, rest, read, ih, rfl⟩
  fits {json components} proper read := by
    cases proper with
    | null | bool | integer | real | string | array =>
        exact absurd read (by simp [HealthReport.components?])
    | @object fields fields_proper =>
        -- Reading leaves the names as they are.
        suffices names : components.map Prod.fst = (sortFields fields).map Prod.fst by
          have rising : ((sortFields fields).map Prod.fst).Pairwise (· < ·) :=
            List.pairwise_map.mpr (rising_sortFields fields)
          rw [← names] at rising
          exact List.pairwise_map.mp rising
        rw [HealthReport.components?] at read
        generalize sortFields fields = sorted at read
        induction sorted generalizing components with
        | nil =>
            obtain rfl := Option.some.inj read
            rfl
        | cons field rest ih =>
            obtain ⟨first, others, firstRead, othersRead, rfl⟩ := mapM_cons_eq_some_iff.mp read
            obtain ⟨health, -, rfl⟩ := Option.map_eq_some_iff.mp firstRead
            rw [List.map_cons, List.map_cons, ih othersRead]

/-- The parts are a map, and the failures have 32 bits. -/
structure HealthReport.Fits (report : HealthReport) : Prop where
  components : Rising report.components
  cycles : report.cycles.Fits

theorem HealthReport.faithful : Faithful toJson ofJson? Fits := by
  refine .record ?distinct ?proper ?read_write ?fits
  case distinct => simp
  case proper =>
    intro report fits
    have parts : (ofFields
        (report.components.map fun (name, health) => (name, health.toJson))).IsProper :=
      components_faithful.proper fits.components
    simp [ComponentStatus.faithful.proper trivial, parts,
      CycleHealth.faithful.proper fits.cycles]
  case read_write =>
    intro report fits
    have parts : required components? (.value (.ofFields
        (report.components.map fun (name, health) => (name, health.toJson)))) =
          some report.components :=
      components_faithful.required_encode fits.components
    simp [List.lookup_cons, ComponentStatus.faithful.required_encode trivial, parts,
      CycleHealth.faithful.required_encode fits.cycles]
  case fits =>
    intro entries report proper read
    split at read
    · simp only [bind, Option.bind_eq_some_iff, Option.some.injEq] at read
      obtain ⟨_, _, _, components, _, cycles, rfl⟩ := read
      exact ⟨components_faithful.required_fits (proper _ (by simp)) components,
        CycleHealth.faithful.required_fits (proper _ (by simp)) cycles⟩
    · exact absurd read (by simp)

/-- The reports that are served fit: the parts come in the order of their names. -/
theorem HealthRegistry.fits_report {registry : HealthRegistry}
    (counted : registry.cycles.consecutiveFailures < Nat.pow 2 32) : registry.report.Fits := by
  have names : (Component.all.map Component.name).Pairwise (· < ·) := by decide
  refine ⟨?_, counted⟩
  show Rising (Component.all.filterMap fun component =>
    (registry.get? component).map (component.name, ·))
  refine List.pairwise_filterMap.mpr ((List.pairwise_map.mp names).imp ?_)
  intro component later less entry noted laterEntry laterNoted
  obtain ⟨_, -, rfl⟩ := Option.map_eq_some_iff.mp noted
  obtain ⟨_, -, rfl⟩ := Option.map_eq_some_iff.mp laterNoted
  exact less

theorem Readiness.faithful : Faithful toJson ofJson? fun _ => True := by
  refine .record ?distinct ?proper ?read_write ?fits
  case distinct =>
    rintro ⟨ready, reason⟩
    cases reason <;> simp
  case proper =>
    rintro ⟨ready, reason⟩ _
    cases reason <;> simp [IsProper.bool, IsProper.string]
  case read_write =>
    rintro ⟨ready, reason⟩ _
    cases reason <;> rfl
  case fits => simp

namespace Json

/-- No form of a model loses anything: a value that fits is read back as it was written, values
that are written the same are the same, and what has been read in any form that is accepted is
read again from what is written for it. -/
theorem models_lose_nothing :
    Lossless PodId.toJson PodId.ofJson? (fun _ => True) ∧
    Lossless ContainerId.toJson ContainerId.ofJson? (fun _ => True) ∧
    Lossless Allocation.toJson Allocation.ofJson? Allocation.Fits ∧
    Lossless Target.toJson Target.ofJson? Target.Fits ∧
    Lossless Sample.toJson Sample.ofJson? Sample.Fits ∧
    Lossless Dimension.toJson Dimension.ofJson? (fun _ => True) ∧
    Lossless Verdict.toJson Verdict.ofJson? (fun _ => True) ∧
    Lossless Decision.toJson Decision.ofJson? Decision.Fits ∧
    Lossless Plan.toJson Plan.ofJson? Plan.Fits ∧
    Lossless SkipReason.toJson SkipReason.ofJson? (fun _ => True) ∧
    Lossless Status.toJson Status.ofJson? (fun _ => True) ∧
    Lossless Timestamp.toJson Timestamp.ofJson? (fun _ => True) ∧
    Lossless Outcome.toJson Outcome.ofJson? Outcome.Fits ∧
    Lossless CycleReport.toJson CycleReport.ofJson? CycleReport.Fits ∧
    Lossless ComponentStatus.toJson ComponentStatus.ofJson? (fun _ => True) ∧
    Lossless ComponentHealth.toJson ComponentHealth.ofJson? (fun _ => True) ∧
    Lossless CycleHealth.toJson CycleHealth.ofJson? CycleHealth.Fits ∧
    Lossless HealthReport.toJson HealthReport.ofJson? HealthReport.Fits ∧
    Lossless Readiness.toJson Readiness.ofJson? (fun _ => True) :=
  ⟨PodId.faithful.lossless, ContainerId.faithful.lossless, Allocation.faithful.lossless,
    Target.faithful.lossless, Sample.faithful.lossless, Dimension.faithful.lossless,
    Verdict.faithful.lossless, Decision.faithful.lossless, Plan.faithful.lossless,
    SkipReason.faithful.lossless, Status.faithful.lossless, Timestamp.faithful.lossless,
    Outcome.faithful.lossless, CycleReport.faithful.lossless, ComponentStatus.faithful.lossless,
    ComponentHealth.faithful.lossless, CycleHealth.faithful.lossless,
    HealthReport.faithful.lossless, Readiness.faithful.lossless⟩

end Json

end PodSizing
