import PodSizing.Health.Endpoint

/-!
# What a health registry says

The status of the whole is read off the statuses of the parts, and the answers of the health
endpoints off the status of the whole.
-/

namespace PodSizing

namespace ComponentStatus

variable {statuses : List ComponentStatus}

theorem worst_eq_unhealthy_iff : worst statuses = .unhealthy ↔ .unhealthy ∈ statuses := by
  simp only [worst, List.contains_iff_mem]
  split
  · simpa
  · rename_i absent
    split <;> simp [absent]

theorem worst_eq_healthy_iff :
    worst statuses = .healthy ↔ ∀ status ∈ statuses, status = .healthy := by
  simp only [worst, List.contains_iff_mem]
  constructor
  · intro healthy status mem
    split at healthy
    · contradiction
    · rename_i working
      split at healthy
      · contradiction
      · rename_i whole
        cases status with
        | healthy => rfl
        | degraded => exact absurd mem whole
        | unhealthy => exact absurd mem working
  · intro allHealthy
    have without (status : ComponentStatus) (worse : status ≠ .healthy) : status ∉ statuses :=
      fun mem => worse (allHealthy status mem)
    rw [if_neg (without _ (by simp)), if_neg (without _ (by simp))]

end ComponentStatus

theorem Component.mem_all (component : Component) : component ∈ all := by
  cases component <;> decide

namespace HealthRegistry

/-- The status that was last noted about a part. -/
def status? (registry : HealthRegistry) (component : Component) : Option ComponentStatus :=
  (registry.get? component).map ComponentHealth.status

variable (registry : HealthRegistry)

theorem status?_note (noted read : Component) (health : ComponentHealth) :
    (registry.note noted health).status? read =
      if read = noted then some health.status else registry.status? read := by
  rw [status?, get?_note]
  split <;> rfl

theorem status?_withCycles (cycles : CycleHealth) (component : Component) :
    { registry with cycles }.status? component = registry.status? component := by
  cases component <;> rfl

/-- A success is noted about the reconciler alone. -/
theorem status?_recordSuccess (cycle now : Instant) (component : Component) :
    (registry.recordSuccess cycle now).status? component =
      if component = .reconciler then some .healthy else registry.status? component := by
  rw [recordSuccess, noteHealthy, status?_note, status?_withCycles]

/-- So is a failure, and the failures in a row decide how bad it is. -/
theorem status?_recordFailure (cycle : Instant) (message : String) (now : Instant)
    (component : Component) :
    (registry.recordFailure cycle message now).status? component =
      if component = .reconciler then
        some (if toleratedFailures ≤ registry.cycles.consecutiveFailures + 1 then .unhealthy
          else .degraded)
      else registry.status? component := by
  rw [recordFailure]
  split
  · rw [noteUnhealthy, status?_note, status?_withCycles]
  · rw [noteDegraded, status?_note, status?_withCycles]

theorem status_eq_worst : registry.status = .worst (Component.all.filterMap registry.status?) := by
  rw [status, entries, List.map_filterMap]
  congr 2
  funext component
  rw [status?, Option.map_map]
  rfl

variable {registry}

theorem status_eq_unhealthy_iff :
    registry.status = .unhealthy ↔ ∃ component, registry.status? component = some .unhealthy := by
  rw [status_eq_worst, ComponentStatus.worst_eq_unhealthy_iff, List.mem_filterMap]
  exact ⟨fun ⟨component, _, noted⟩ => ⟨component, noted⟩,
    fun ⟨component, noted⟩ => ⟨component, component.mem_all, noted⟩⟩

theorem status_eq_healthy_iff :
    registry.status = .healthy ↔
      ∀ component status, registry.status? component = some status → status = .healthy := by
  rw [status_eq_worst, ComponentStatus.worst_eq_healthy_iff]
  constructor
  · intro healthy component status noted
    exact healthy status (List.mem_filterMap.mpr ⟨component, component.mem_all, noted⟩)
  · intro healthy status mem
    obtain ⟨component, -, noted⟩ := List.mem_filterMap.mp mem
    exact healthy component status noted

/-- The operator works unless a part is unhealthy. -/
theorem status_answer_healthz (registry : HealthRegistry) :
    (registry.answer "GET" "/healthz").status =
      if registry.status = .unhealthy then 503 else 200 := by
  have endpoint : Endpoint.ofPath? (Endpoint.pathOf "/healthz") = some .liveness := by
    decide +kernel
  simp only [answer, endpoint, Endpoint.answer]
  cases registry.status <;> rfl

/-- An operator whose loop has been scheduled is ready unless a part is unhealthy. -/
theorem status_answer_readyz (scheduled : registry.scheduled = true) :
    (registry.answer "GET" "/readyz").status =
      if registry.status = .unhealthy then 503 else 200 := by
  have endpoint : Endpoint.ofPath? (Endpoint.pathOf "/readyz") = some .readiness := by
    decide +kernel
  simp only [answer, endpoint, Endpoint.answer, readiness, scheduled]
  cases registry.status <;> rfl

end HealthRegistry

end PodSizing
