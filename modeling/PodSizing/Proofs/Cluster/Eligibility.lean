import PodSizing.Cluster.Provider
import PodSizing.Proofs.Decision.Steady
import PodSizing.Proofs.Operator.Cooldown

/-!
# Which containers are touched

A pod is eligible when it is running and stays, when its namespace is looked at, and when it is
neither a part of the cluster itself nor the operator.  A cycle makes calls only for containers
that stood in an eligible pod of its own listing and whose usage was in its own metrics, and these
calls never contain a dimension in which nothing is configured.
-/

namespace PodSizing

/-- A pod is foreign to the cluster's own ones when no label says otherwise. -/
theorem Metadata.isSystem_eq_false_iff {metadata : Metadata} :
    metadata.isSystem = false ↔ ∀ label values value, (label, values) ∈ systemLabels →
      metadata.label? label = some value → value ∉ values := by
  rw [isSystem, List.any_eq_false]
  constructor
  · intro none label values value listed labelled mem
    apply none (label, values) listed
    simp [labelled, mem]
  · rintro none ⟨label, values⟩ listed
    cases labelled : metadata.label? label with
    | none => simp [labelled]
    | some value => simpa [labelled] using none label values value listed labelled

namespace Identity

variable {identity : Identity} {metadata : Metadata}

theorem isLabelled_eq_false_iff :
    identity.isLabelled metadata = false ↔ (identity.appName ≠ "" →
      metadata.label? "app.kubernetes.io/name" ≠ some identity.appName) := by
  simp [isLabelled]

theorem isNamed_eq_false_iff :
    identity.isNamed metadata = false ↔ ∀ name namespaceName, identity.podName = some name →
      identity.podNamespace = some namespaceName →
      ¬ (metadata.name = some name ∧ metadata.namespaceName = some namespaceName) := by
  cases name : identity.podName with
  | none => simp [isNamed, name]
  | some name' =>
      cases namespaceName : identity.podNamespace with
      | none => simp [isNamed, name, namespaceName]
      | some namespaceName' => simp [isNamed, name, namespaceName]

end Identity

namespace Selector

/-- The pod may be resized. -/
structure Eligible (selector : Selector) (pod : Pod) : Prop where
  running : pod.phase = some "Running"
  staying : pod.metadata.deletion = none
  place : ∃ name, pod.metadata.namespaceName = some name ∧ name ∉ selector.filter.system ∧
    name ∉ selector.filter.excluded ∧
    (selector.filter.included = [] ∨ name ∈ selector.filter.included)
  foreign : ∀ label values value, (label, values) ∈ systemLabels →
    pod.metadata.label? label = some value → value ∉ values
  otherLabel : selector.identity.appName ≠ "" →
    pod.metadata.label? "app.kubernetes.io/name" ≠ some selector.identity.appName
  otherName : ∀ name namespaceName, selector.identity.podName = some name →
    selector.identity.podNamespace = some namespaceName →
    ¬ (pod.metadata.name = some name ∧ pod.metadata.namespaceName = some namespaceName)

/-- Exactly the eligible pods are admitted. -/
theorem admits_iff {selector : Selector} {pod : Pod} :
    selector.admits pod = true ↔ selector.Eligible pod := by
  have place : pod.metadata.namespaceName.any selector.filter.allows = true ↔
      ∃ name, pod.metadata.namespaceName = some name ∧ name ∉ selector.filter.system ∧
        name ∉ selector.filter.excluded ∧
        (selector.filter.included = [] ∨ name ∈ selector.filter.included) := by
    simp only [← NamespaceFilter.allows_iff]
    cases pod.metadata.namespaceName <;> simp
  simp only [admits, Identity.isSelf, Bool.and_eq_true, Bool.not_eq_true', Bool.or_eq_false_iff,
    beq_iff_eq, Option.isNone_iff_eq_none, place, Metadata.isSystem_eq_false_iff,
    Identity.isLabelled_eq_false_iff, Identity.isNamed_eq_false_iff]
  constructor
  · rintro ⟨⟨⟨⟨place, running⟩, staying⟩, foreign⟩, otherLabel, otherName⟩
    exact ⟨running, staying, place, foreign, otherLabel, otherName⟩
  · rintro ⟨running, staying, place, foreign, otherLabel, otherName⟩
    exact ⟨⟨⟨⟨place, running⟩, staying⟩, foreign⟩, otherLabel, otherName⟩

/-- A target is a container of an eligible pod whose resources could be read. -/
theorem exists_container_of_mem_select {selector : Selector} {pod : Pod} {target : Target}
    (mem : target ∈ selector.select pod) :
    selector.Eligible pod ∧ pod.metadata.podId? = some target.container.pod ∧
      ∃ container ∈ pod.containers.getD [], container.name = target.container.container ∧
        allocations container = .ok target.allocation := by
  simp only [select, candidates, List.mem_filterMap] at mem
  obtain ⟨⟨id, container⟩, candidate, made⟩ := mem
  split at candidate
  · rename_i admitted
    split at candidate
    · rename_i pod' named
      obtain ⟨same, inPod, eq⟩ := List.mem_map.mp candidate
      cases eq
      simp only [target?] at made
      split at made
      · rename_i allocated readable
        split at made
        · contradiction
        · cases made
          exact ⟨admits_iff.mp admitted, named, container, inPod, rfl, readable⟩
      · contradiction
    · contradiction
  · contradiction

end Selector

namespace UsageSnapshot

variable {container : ContainerId} {amounts : PerDimension Nat}
  {entry : ContainerId × PerDimension Nat}

theorem mem_entries_note {snapshot : UsageSnapshot}
    (mem : entry ∈ (snapshot.note container amounts).entries) :
    entry = (container, amounts) ∨ entry ∈ snapshot.entries := by
  rcases List.mem_cons.mp mem with same | earlier
  · exact .inl same
  · exact .inr (List.mem_filter.mp earlier).1

/-- The entries of a snapshot are the usage that was read. -/
theorem mem_usage_of_mem_ofMetrics {metrics : List PodMetrics}
    (mem : entry ∈ (ofMetrics metrics).entries) : entry ∈ metrics.flatMap PodMetrics.usage := by
  suffices noted : ∀ (usage : List (ContainerId × PerDimension Nat)) (snapshot : UsageSnapshot),
      entry ∈ (usage.foldl (fun snapshot entry =>
        snapshot.note entry.1 entry.2) snapshot).entries →
      entry ∈ usage ∨ entry ∈ snapshot.entries by
    exact (noted _ _ mem).resolve_right (by simp [empty])
  intro usage
  induction usage with
  | nil => exact fun snapshot before => .inr before
  | cons first rest ih =>
      intro snapshot after
      rcases ih _ after with inRest | here
      · exact .inl (List.mem_cons_of_mem first inRest)
      · rcases mem_entries_note here with rfl | before
        · exact .inl List.mem_cons_self
        · exact .inr before

theorem mem_entries_of_get? {snapshot : UsageSnapshot}
    (found : snapshot.get? container = some amounts) :
    (container, amounts) ∈ snapshot.entries := by
  obtain ⟨before, after, split, -⟩ := List.lookup_eq_some_iff.mp found
  rw [split]
  exact List.mem_append_right _ List.mem_cons_self

end UsageSnapshot

namespace Provider

variable {σ : Type} {provider after : Provider} {exchange : ApiRequest → StateM σ ApiReply}
  {state last : σ} {listed : Except ListingError (List Target)} {events : List Event}

/-- Where the pods cannot be listed, what was read before is kept. -/
theorem run_list_of_error {error : ListingError} {middle : σ}
    (podsRun : (Listing.pods exchange provider.scopes).run state = (.error error, middle)) :
    (provider.list exchange).run state = ((provider, .error error, []), middle) := by
  rw [list, StateT.run_bind, podsRun]
  rfl

/-- Where they can, the metrics are listed next, and what was read before is replaced. -/
theorem run_list_of_ok {pods : List Pod} {metrics : Except ListingError (List PodMetrics)}
    {middle : σ}
    (podsRun : (Listing.pods exchange provider.scopes).run state = (.ok pods, middle))
    (metricsRun : (Listing.metrics exchange provider.scopes).run middle = (metrics, last)) :
    (provider.list exchange).run state =
      ((provider.refresh metrics, .ok (provider.targets pods),
        provider.listEvents pods metrics), last) := by
  rw [list, StateT.run_bind, podsRun]
  change (Listing.metrics exchange provider.scopes >>= _).run middle = _
  rw [StateT.run_bind, metricsRun]
  rfl

/-- What a listing gives: an error, or the targets of the pods that were listed and a snapshot of
the metrics that were listed then. -/
theorem list_cases
    (run : (provider.list exchange).run state = ((after, listed, events), last)) :
    (∃ error, listed = .error error) ∨
      ∃ pods middle metrics,
        (Listing.pods exchange provider.scopes).run state = (.ok pods, middle) ∧
        (Listing.metrics exchange provider.scopes).run middle = (metrics, last) ∧
        after = provider.refresh metrics ∧ listed = .ok (provider.targets pods) := by
  rcases podsRun : (Listing.pods exchange provider.scopes).run state with
    ⟨error | pods, middle⟩
  · cases run.symm.trans (run_list_of_error podsRun)
    exact .inl ⟨error, rfl⟩
  · rcases metricsRun : (Listing.metrics exchange provider.scopes).run middle with
      ⟨metrics, final⟩
    cases run.symm.trans (run_list_of_ok podsRun metricsRun)
    exact .inr ⟨pods, middle, metrics, rfl, metricsRun, rfl, rfl⟩

/-- What is observed of a target is what the provider answers. -/
theorem mem_and_sample?_of_mem_observe {targets : List Target}
    {readings : List (Target × Reading)} {reading : Target × Reading}
    (observed : provider.observe (.ok targets) = .ok readings) (mem : reading ∈ readings) :
    reading.1 ∈ targets ∧ reading.2.sample? = provider.sample? reading.1 := by
  cases observed
  obtain ⟨target, isTarget, rfl⟩ := List.mem_map.mp mem
  refine ⟨isTarget, ?_⟩
  cases provider.sample? target <;> rfl

/-- A sample that is observed is of a target, with the usage in the snapshot. -/
theorem of_mem_observe {targets : List Target} {readings : List (Target × Reading)}
    {reading : Target × Reading} {sample : Sample}
    (observed : provider.observe (.ok targets) = .ok readings) (mem : reading ∈ readings)
    (measured : reading.2.sample? = some sample) :
    ∃ target ∈ targets, sample.container = target.container ∧
      sample.allocation = target.allocation ∧
      (target.container, sample.usage) ∈ provider.snapshot.entries := by
  obtain ⟨isTarget, answered⟩ := mem_and_sample?_of_mem_observe observed mem
  obtain ⟨amounts, inSnapshot, rfl⟩ :=
    Option.map_eq_some_iff.mp (answered.symm.trans measured)
  exact ⟨reading.1, isTarget, rfl, rfl, UsageSnapshot.mem_entries_of_get? inSnapshot⟩

/-- The entries of a snapshot are the usage in the metrics that were listed. -/
theorem mem_usage_of_refresh {metrics : Except ListingError (List PodMetrics)}
    {entry : ContainerId × PerDimension Nat}
    (mem : entry ∈ (provider.refresh metrics).snapshot.entries) :
    ∃ items, metrics = .ok items ∧ entry ∈ items.flatMap PodMetrics.usage := by
  cases metrics with
  | error error => contradiction
  | ok items => exact ⟨items, rfl, UsageSnapshot.mem_usage_of_mem_ofMetrics mem⟩

end Provider

namespace Policy

variable {policy : Policy} {cooldowns : CooldownTable} {now : Instant} {sample : Sample}

/-- A dimension in which nothing is configured is not changed. -/
theorem Decides.configured_of_isChange {dimension : Dimension} {usage : Nat}
    {allocation : Allocation} {decision : Decision}
    (decides : policy.Decides dimension usage allocation decision)
    (changes : decision.isChange = true) : allocation.baseline ≠ 0 := by
  cases decides with
  | unset => contradiction
  | within configured | blocked configured | moved configured => exact configured

/-- A plan is for the container of its sample and changes only what is configured there. -/
theorem configured_of_assess? {plan : Plan}
    (assessed : policy.assess? cooldowns now sample = some plan) :
    plan.container = sample.container ∧
      ∀ dimension ∈ plan.changing, (sample.allocation.get dimension).baseline ≠ 0 := by
  obtain ⟨container, -, decided⟩ := assess?_eq_some_iff.mp assessed
  refine ⟨container, ?_⟩
  intro dimension changing
  have isChange := Plan.mem_changing.mp changing
  have unrested := decide?_of_decideResting? (decided dimension) isChange
  exact (decide?_eq_some_iff.mp unrested).configured_of_isChange isChange

end Policy

namespace Controller

variable {controller next : Controller} {cycle : Cycle} {record : CycleRecord}

/-- A call is for the container of a sample of the cycle, and about dimensions in which something
is configured for it. -/
theorem CycleStep.exists_sample_of_call (step : CycleStep controller cycle next record)
    {call : Call} (mem : call ∈ record.calls) :
    ∃ readings, cycle.observation = .ok readings ∧
      ∃ reading ∈ readings, ∃ sample, reading.2.sample? = some sample ∧
        call.request.container = sample.container ∧
        ∀ dimension ∈ call.request.dimensions,
          (sample.allocation.get dimension).baseline ≠ 0 := by
  cases step with
  | failed => contradiction
  | @applied operator executor execution readings calls report observed policy cooldowns accounts =>
      obtain ⟨-, plan, attempt, here, request⟩ := accounts.calls call mem
      have isPlan := List.mem_of_getElem? here
      rw [Operator.plansFor, Plan.selectChanges, List.mem_filter, List.mem_filterMap] at isPlan
      obtain ⟨⟨sample, isSample, assessed⟩, -⟩ := isPlan
      obtain ⟨reading, isReading, measured⟩ := List.mem_filterMap.mp isSample
      obtain ⟨container, configured⟩ := Policy.configured_of_assess? assessed
      refine ⟨readings, observed, reading, isReading, sample, measured, ?_, ?_⟩
      · rw [request]
        exact container
      · intro dimension contains
        rw [request] at contains
        exact configured dimension (Plan.mem_changing_of_mem_dimensions contains)

/-- In a cycle that observes what a provider lists for it, every call is for a container that stood
in an eligible pod of this listing, with resources that could be read and usage in the metrics of
this listing.  Each dimension of the call has something configured in it.  What the cluster replies
to the listing, what the provider had read before and what is known of earlier changes does not
matter. -/
theorem only_eligible_containers_touched {σ : Type} {provider after : Provider}
    {exchange : ApiRequest → StateM σ ApiReply} {state last : σ}
    {listed : Except ListingError (List Target)} {events : List Event}
    (listing : (provider.list exchange).run state = ((after, listed, events), last))
    (observes : cycle.observation = after.observe listed) (reachable : controller.IsReachable)
    (ran : controller.runCycle? cycle = some (next, record)) :
    ∀ call ∈ record.calls, ∃ pods middle metrics,
      (Listing.pods exchange provider.scopes).run state = (.ok pods, middle) ∧
      (Listing.metrics exchange provider.scopes).run middle = (.ok metrics, last) ∧
      ∃ pod ∈ pods, provider.selector.Eligible pod ∧
        pod.metadata.podId? = some call.request.container.pod ∧
        ∃ container ∈ pod.containers.getD [],
          container.name = call.request.container.container ∧
          ∃ allocation, Selector.allocations container = .ok allocation ∧
            (∀ dimension ∈ call.request.dimensions, (allocation.get dimension).baseline ≠ 0) ∧
            ∃ amounts, (call.request.container, amounts) ∈ metrics.flatMap PodMetrics.usage := by
  intro call mem
  obtain ⟨step, -⟩ := CycleStep.of_runCycle? reachable ran
  obtain ⟨readings, observed, reading, isReading, sample, measured, isFor, configured⟩ :=
    step.exists_sample_of_call mem
  rw [observes] at observed
  rcases Provider.list_cases listing with ⟨error, rfl⟩ |
    ⟨pods, middle, listedMetrics, podsRun, metricsRun, rfl, rfl⟩
  · cases observed
  obtain ⟨target, isTarget, ofTarget, allocation, inSnapshot⟩ :=
    Provider.of_mem_observe observed isReading measured
  obtain ⟨metrics, rfl, inMetrics⟩ := Provider.mem_usage_of_refresh inSnapshot
  obtain ⟨pod, isPod, selected⟩ := List.mem_flatMap.mp isTarget
  obtain ⟨eligible, named, container, inPod, containerName, readable⟩ :=
    Selector.exists_container_of_mem_select selected
  rw [isFor, ofTarget]
  exact ⟨pods, middle, metrics, podsRun, metricsRun, pod, isPod, eligible, named, container, inPod,
    containerName, target.allocation, readable, allocation ▸ configured, sample.usage, inMetrics⟩

/-- The pods of a small cluster, as its API server lists them: one pod with two containers, of which
only the first has resources. -/
def webPodsText : String :=
  "\x7b\"metadata\":\x7b\x7d,\"items\":[\x7b\"metadata\":\x7b\"namespace\":\"default\"," ++
    "\"name\":\"web\"\x7d,\"spec\":\x7b\"containers\":[\x7b\"name\":\"app\",\"resources\":" ++
    "\x7b\"limits\":\x7b\"memory\":\"1G\"\x7d\x7d\x7d,\x7b\"name\":\"log\"\x7d]\x7d," ++
    "\"status\":\x7b\"phase\":\"Running\"\x7d\x7d]\x7d"

/-- The metrics of this cluster: the container has used nine tenths of its memory. -/
def webUsageText : String :=
  "\x7b\"metadata\":\x7b\x7d,\"items\":[\x7b\"metadata\":\x7b\"namespace\":\"default\"," ++
    "\"name\":\"web\"\x7d,\"containers\":[\x7b\"name\":\"app\",\"usage\":" ++
    "\x7b\"cpu\":\"5m\",\"memory\":\"900M\"\x7d\x7d]\x7d]\x7d"

/-- The replies of this cluster to listings. -/
def webCluster (request : ApiRequest) : StateM Unit ApiReply :=
  pure (.answer 200 (if request.path = "/api/v1/pods" then webPodsText else webUsageText))

/-- A provider that looks at all namespaces but those of the cluster itself. -/
def plainProvider : Provider := .ofSelector ⟨.default, ⟨"pod-sizing", none, none⟩⟩

/-- A cycle that observes what is listed in this cluster. -/
def webCycle : Cycle where
  now := instantAt 0
  wall := instantAt 3600
  observation :=
    let listing := (plainProvider.list webCluster).run ()
    listing.1.1.observe listing.1.2.1
  schedule := applyOnePlan 0 0
  finish := instantAt 3602

/-- Only the memory of the container that has a limit for it is touched. -/
theorem only_eligible_containers_touched_web :
    ∃ next record call pods,
      (ofOperator ⟨.default, .default, .empty, .empty⟩).runCycle? webCycle =
        some (next, record) ∧
      record.calls = [call] ∧ call.request.container = ⟨⟨"default", "web"⟩, "app"⟩ ∧
      call.request.dimensions = [.memory] ∧
      (Listing.pods webCluster plainProvider.scopes).run () = (.ok pods, ()) ∧
      ∃ pod ∈ pods, plainProvider.selector.Eligible pod ∧
        pod.metadata.podId? = some call.request.container.pod := by
  have touched : ((ofOperator ⟨.default, .default, .empty, .empty⟩).runCycle? webCycle).any
      (fun ran => ran.2.calls.map (fun call => (call.request.container, call.request.dimensions)) =
        [(⟨⟨"default", "web"⟩, "app"⟩, [.memory])]) = true := by
    decide +kernel
  obtain ⟨⟨next, record⟩, ran, calls⟩ := (Option.any_eq_true _ _).mp touched
  rw [decide_eq_true_eq, List.map_eq_singleton_iff] at calls
  obtain ⟨call, calls, eq⟩ := calls
  obtain ⟨isApp, dimensions⟩ := Prod.mk.inj eq
  have observes : ∀ listing, (plainProvider.list webCluster).run () = listing →
      webCycle.observation = listing.1.1.observe listing.1.2.1 := by
    rintro _ rfl
    rfl
  -- the listing is named, so that it is not evaluated once more
  obtain ⟨⟨⟨after, listed, events⟩, last⟩, listing⟩ :
      ∃ listing, (plainProvider.list webCluster).run () = listing := ⟨_, rfl⟩
  obtain ⟨pods, middle, metrics, podsRun, -, pod, isPod, eligible, named, -⟩ :=
    only_eligible_containers_touched listing (observes _ listing) (isReachable_ofOperator _) ran
      call (calls ▸ List.mem_singleton_self call)
  exact ⟨next, record, call, pods, ran, calls, isApp, dimensions, podsRun, pod, isPod, eligible,
    named⟩

end Controller

end PodSizing
