import Mathlib.Data.List.Nodup
import PodSizing.Proofs.Cluster.Eligibility
import PodSizing.Proofs.Cluster.Listing
import PodSizing.Proofs.Operator.Accounting

/-!
# Namespace by namespace

Where namespaces are included by name, they are listed one after the other, and a name that is
included twice is listed twice.  Listing the namespaces brings what listing the whole cluster
brings, but each target as often as its namespace was listed, and a cycle has as many plans for a
container.  Names that are excluded as well do not matter.
-/

namespace PodSizing

/-- The pod is in the scope. -/
def Scope.contains : Scope → Pod → Bool
  | .cluster, _ => true
  | .within name, pod => pod.metadata.namespaceName == some name

/-- How often a namespace is listed, be it alone or with all others. -/
def NamespaceFilter.visits (filter : NamespaceFilter) (name : String) : Nat :=
  if filter.included = [] then 1 else filter.included.count name

section Visits

variable {β : Type} [DecidableEq β] {items : Pod → List β} {place : β → String}

/-- What is found in the pods of one namespace is all that is found there. -/
theorem count_flatMap_within (placed : ∀ pod, ∀ item ∈ items pod,
      pod.metadata.namespaceName = some (place item)) (pods : List Pod) (name : String)
    (item : β) :
    ((pods.filter (Scope.within name).contains).flatMap items).count item =
      if name = place item then (pods.flatMap items).count item else 0 := by
  induction pods with
  | nil => simp
  | cons pod rest ih =>
      rw [List.filter_cons]
      by_cases present : item ∈ items pod
      · have here := placed pod item present
        by_cases same : name = place item
        · have contains : (Scope.within name).contains pod = true := by
            simp [Scope.contains, here, same]
          rw [if_pos contains, List.flatMap_cons, List.flatMap_cons, List.count_append,
            List.count_append, ih, if_pos same, if_pos same]
        · have outside : ¬ (Scope.within name).contains pod = true := by
            simpa [Scope.contains, here] using Ne.symm same
          rw [if_neg outside, ih, if_neg same, if_neg same]
      · have absent : (items pod).count item = 0 := List.count_eq_zero.mpr present
        rw [List.flatMap_cons, List.count_append, absent, Nat.zero_add, ← ih]
        split
        · rw [List.flatMap_cons, List.count_append, absent, Nat.zero_add]
        · rfl

/-- What is found in a pod is found as often as the namespace of the pod is listed. -/
theorem count_flatMap_scopes (placed : ∀ pod, ∀ item ∈ items pod,
      pod.metadata.namespaceName = some (place item)) (filter : NamespaceFilter)
    (pods : List Pod) (item : β) :
    (((Scope.ofFilter filter).flatMap fun scope => pods.filter scope.contains).flatMap
        items).count item =
      filter.visits (place item) * (pods.flatMap items).count item := by
  have within : ∀ names : List String,
      (((names.map Scope.within).flatMap fun scope => pods.filter scope.contains).flatMap
          items).count item = names.count (place item) * (pods.flatMap items).count item := by
    intro names
    induction names with
    | nil => simp
    | cons name rest ih =>
        rw [List.map_cons, List.flatMap_cons, List.flatMap_append, List.count_append, ih,
          count_flatMap_within placed, List.count_cons]
        by_cases same : name = place item
        · simp [same, Nat.add_mul, Nat.add_comm]
        · simp [same]
  rw [Scope.ofFilter, NamespaceFilter.visits]
  by_cases all : filter.included = []
  · have whole : pods.filter Scope.cluster.contains = pods :=
      List.filter_eq_self.mpr fun _ _ => rfl
    simp [all, whole]
  · simp [all, within]

/-- Lists in which items are found so many times as often agree where this is once. -/
theorem perm_iff_of_count {listed whole : List β} {visits : β → Nat}
    (count : ∀ item, listed.count item = visits item * whole.count item) :
    listed.Perm whole ↔ ∀ item ∈ whole, visits item = 1 := by
  rw [List.perm_iff_count]
  constructor
  · intro same item mem
    have positive : 0 < whole.count item := List.count_pos_iff.mpr mem
    have once : visits item * whole.count item = 1 * whole.count item := by
      rw [← count, same, Nat.one_mul]
    exact Nat.eq_of_mul_eq_mul_right positive once
  · intro once item
    by_cases mem : item ∈ whole
    · rw [count, once item mem, Nat.one_mul]
    · rw [count, List.count_eq_zero.mpr mem, Nat.mul_zero]

/-- Nothing is found twice in the first of them where this is at most once. -/
theorem nodup_iff_of_count {listed whole : List β} {visits : β → Nat}
    (count : ∀ item, listed.count item = visits item * whole.count item)
    (distinct : whole.Nodup) : listed.Nodup ↔ ∀ item ∈ whole, visits item ≤ 1 := by
  rw [List.nodup_iff_count_le_one]
  constructor
  · intro atMost item mem
    have once := atMost item
    rwa [count, List.count_eq_one_of_mem distinct mem, Nat.mul_one] at once
  · intro atMost item
    by_cases mem : item ∈ whole
    · rw [count, List.count_eq_one_of_mem distinct mem, Nat.mul_one]
      exact atMost item mem
    · rw [count, List.count_eq_zero.mpr mem, Nat.mul_zero]
      exact Nat.zero_le 1

end Visits

namespace Selector

variable {selector : Selector} {pod : Pod}

/-- The targets of a pod with distinct containers are for distinct containers. -/
theorem nodup_containers_select
    (distinct : ((pod.containers.getD []).map PodContainer.name).Nodup) :
    ((selector.select pod).map Target.container).Nodup := by
  have candidates : ((selector.candidates pod).map fun candidate =>
      (⟨candidate.1, candidate.2.name⟩ : ContainerId)).Nodup := by
    rw [Selector.candidates]
    split
    · split
      · rename_i id named
        rw [List.map_map]
        have injective : Function.Injective (ContainerId.mk id) :=
          fun first second same => (ContainerId.mk.inj same).2
        have named := List.Nodup.map injective distinct
        rw [List.map_map] at named
        exact named
      · exact List.nodup_nil
    · exact List.nodup_nil
  refine List.Nodup.sublist (map_filterMap_sublist ?_) candidates
  rintro ⟨id, container⟩ - target made
  simp only [target?] at made
  split at made
  · split at made
    · contradiction
    · cases made
      rfl
  · contradiction

theorem podId?_of_mem_containers_select {container : ContainerId}
    (mem : container ∈ (selector.select pod).map Target.container) :
    pod.metadata.podId? = some container.pod := by
  obtain ⟨target, selected, rfl⟩ := List.mem_map.mp mem
  exact (exists_container_of_mem_select selected).2.1

theorem namespaceName_of_mem_containers_select {container : ContainerId}
    (mem : container ∈ (selector.select pod).map Target.container) :
    pod.metadata.namespaceName = some container.pod.namespaceName := by
  have named := podId?_of_mem_containers_select mem
  simp only [Metadata.podId?, Option.bind_eq_bind, Option.bind_eq_some_iff] at named
  obtain ⟨namespaceName, here, name, -, made⟩ := named
  rw [here, ← Option.some.inj made]

/-- A namespace in which a pod is eligible is listed. -/
theorem one_le_visits_of_mem_select {target : Target} (mem : target ∈ selector.select pod) :
    1 ≤ selector.filter.visits target.container.pod.namespaceName := by
  obtain ⟨name, here, -, -, among⟩ := (exists_container_of_mem_select mem).1.place
  have own := namespaceName_of_mem_containers_select (List.mem_map_of_mem mem)
  obtain rfl : name = _ := Option.some.inj (here.symm.trans own)
  rw [NamespaceFilter.visits]
  split
  · exact Nat.le_refl 1
  · rename_i some
    exact List.count_pos_iff.mpr (among.resolve_left some)

/-- The targets of pods with names and containers of their own are for distinct containers. -/
theorem nodup_containers_flatMap_select {pods : List Pod}
    (distinctPods : (pods.filterMap fun pod => pod.metadata.podId?).Nodup)
    (distinct : ∀ pod ∈ pods, ((pod.containers.getD []).map PodContainer.name).Nodup) :
    ((pods.flatMap selector.select).map Target.container).Nodup := by
  rw [List.map_flatMap, List.nodup_flatMap]
  refine ⟨fun pod mem => nodup_containers_select (distinct pod mem), ?_⟩
  refine (List.pairwise_filterMap.mp distinctPods).imp fun others container inFirst inSecond => ?_
  exact others _ (podId?_of_mem_containers_select inFirst) _
    (podId?_of_mem_containers_select inSecond) rfl

end Selector

/-- The pods of a cluster at one time. -/
structure Inventory where
  pods : List Pod
  /-- Pods have names of their own. -/
  distinct_pods : (pods.filterMap fun pod => pod.metadata.podId?).Nodup
  /-- Within a pod, so have containers. -/
  distinct_containers : ∀ pod ∈ pods, ((pod.containers.getD []).map PodContainer.name).Nodup

namespace Inventory

/-- The running pods of a scope. -/
def running (inventory : Inventory) (scope : Scope) : List Pod :=
  (inventory.pods.filter fun pod => pod.phase == some "Running").filter scope.contains

/-- At any time the running pods of a scope are listed, each once and no others. -/
def ShownBy {σ : Type} (inventory : Inventory) (exchange : ApiRequest → StateM σ ApiReply)
    (scope : Scope) : Prop :=
  ∀ state, ∃ pods next,
    ((Listing.podsRequest scope).send (Listing.form Pod.form) exchange).run state =
      (.ok pods, next) ∧ pods.Perm (inventory.running scope)

variable {σ : Type} {inventory : Inventory} {exchange : ApiRequest → StateM σ ApiReply}

/-- Where each scope is shown, a listing brings the running pods of one scope after the other. -/
theorem exists_perm_of_pods {scopes : List Scope}
    (shown : ∀ scope ∈ scopes, inventory.ShownBy exchange scope) (state : σ) :
    ∃ pods next, (Listing.pods exchange scopes).run state = (.ok pods, next) ∧
      pods.Perm (scopes.flatMap inventory.running) := by
  apply exists_perm_of_listScopes
  intro scope mem state
  obtain ⟨pods, next, ran, perm⟩ := shown scope mem state
  refine ⟨pods, next, ?_, perm⟩
  rw [StateT.run_bind, ran]
  rfl

theorem running_cluster (inventory : Inventory) :
    inventory.running .cluster = inventory.pods.filter fun pod => pod.phase == some "Running" :=
  List.filter_eq_self.mpr fun _ _ => rfl

/-- What is found in the pods of a listing, against what is found in all running pods. -/
theorem count_flatMap_of_perm {β : Type} [DecidableEq β] {items : Pod → List β}
    {place : β → String} (placed : ∀ pod, ∀ item ∈ items pod,
      pod.metadata.namespaceName = some (place item)) {filter : NamespaceFilter} {pods : List Pod}
    (perm : pods.Perm ((Scope.ofFilter filter).flatMap inventory.running)) (item : β) :
    (pods.flatMap items).count item =
      filter.visits (place item) * ((inventory.running .cluster).flatMap items).count item := by
  have byScope : (Scope.ofFilter filter).flatMap inventory.running =
      (Scope.ofFilter filter).flatMap fun scope =>
        (inventory.running .cluster).filter scope.contains := by
    rw [running_cluster]
    rfl
  rw [(perm.flatMap_right items).count_eq, byScope, count_flatMap_scopes placed]

/-- The containers of the whole cluster are listed once each. -/
theorem nodup_containers (inventory : Inventory) (selector : Selector) :
    (((inventory.running .cluster).flatMap selector.select).map Target.container).Nodup := by
  rw [running_cluster]
  refine Selector.nodup_containers_flatMap_select ?_ fun pod mem =>
    inventory.distinct_containers pod (List.mem_filter.mp mem).1
  exact inventory.distinct_pods.sublist (List.Sublist.filterMap _ List.filter_sublist)

end Inventory

namespace Operator

/-- The plan for a target by the usage that a provider has read last, where it changes something. -/
def planFor? (operator : Operator) (now : Instant) (provider : Provider) (target : Target) :
    Option Plan :=
  ((provider.sample? target).bind (operator.policy.assess? operator.cooldowns now)).filter
    Plan.isChange

variable {operator : Operator} {now : Instant} {provider : Provider}

theorem container_of_planFor? {target : Target} {plan : Plan}
    (made : operator.planFor? now provider target = some plan) :
    plan.container = target.container := by
  obtain ⟨sample, measured, assessed⟩ :=
    Option.bind_eq_some_iff.mp (Option.filter_eq_some_iff.mp made).1
  obtain ⟨amounts, -, rfl⟩ := Option.map_eq_some_iff.mp measured
  exact Policy.container_of_assess? assessed

/-- A cycle has the plans for the targets that were listed for it. -/
theorem plansFor_observe {targets : List Target} {readings : List (Target × Reading)}
    (observed : provider.observe (.ok targets) = .ok readings) :
    operator.plansFor now (readings.filterMap fun reading => reading.2.sample?) =
      targets.filterMap (operator.planFor? now provider) := by
  cases observed
  rw [plansFor, Plan.selectChanges, List.filterMap_map, List.filterMap_filterMap,
    List.filter_filterMap]
  congr 1
  funext target
  simp only [planFor?, Function.comp_apply]
  cases provider.sample? target <;> rfl

end Operator

namespace Provider

variable {σ : Type} {inventory : Inventory} {exchange : ApiRequest → StateM σ ApiReply}
  {provider after : Provider} {state last : σ} {listed : Except ListingError (List Target)}
  {events : List Event}

/-- A listing of a cluster that is shown gives the targets of the running pods of its scopes. -/
theorem exists_targets_of_shown
    (shown : ∀ scope ∈ provider.scopes, inventory.ShownBy exchange scope)
    (listing : (provider.list exchange).run state = ((after, listed, events), last)) :
    ∃ pods, listed = .ok (provider.targets pods) ∧
      pods.Perm (provider.scopes.flatMap inventory.running) := by
  obtain ⟨pods, middle, podsRun, perm⟩ := Inventory.exists_perm_of_pods shown state
  rcases metricsRun : (Listing.metrics exchange provider.scopes).run middle with ⟨metrics, final⟩
  cases listing.symm.trans (run_list_of_ok podsRun metricsRun)
  exact ⟨pods, rfl, perm⟩

section Counts

variable {pods : List Pod} (perm : pods.Perm (provider.scopes.flatMap inventory.running))
include perm

/-- Each target is listed once for each time that its namespace was. -/
theorem count_targets (target : Target) :
    (provider.targets pods).count target =
      provider.selector.filter.visits target.container.pod.namespaceName *
        (provider.targets (inventory.running .cluster)).count target :=
  Inventory.count_flatMap_of_perm (fun _ _ mem =>
    Selector.namespaceName_of_mem_containers_select (List.mem_map_of_mem mem)) perm target

/-- So is each container. -/
theorem count_containers (container : ContainerId) :
    ((provider.targets pods).map Target.container).count container =
      provider.selector.filter.visits container.pod.namespaceName *
        ((provider.targets (inventory.running .cluster)).map Target.container).count
          container := by
  rw [targets, targets, List.map_flatMap, List.map_flatMap]
  exact Inventory.count_flatMap_of_perm
    (fun _ _ mem => Selector.namespaceName_of_mem_containers_select mem) perm container

/-- A cycle has no plan for a container, or one for each time that its namespace was listed. -/
theorem count_container_plans (operator : Operator) (now : Instant) (after : Provider)
    (container : ContainerId) :
    let plans := (provider.targets pods).filterMap (operator.planFor? now after)
    (plans.map Plan.container).count container = 0 ∨
      (plans.map Plan.container).count container =
        provider.selector.filter.visits container.pod.namespaceName := by
  intro plans
  let items (pod : Pod) : List ContainerId :=
    ((provider.selector.select pod).filterMap (operator.planFor? now after)).map Plan.container
  have sublist (targets : List Target) :
      ((targets.filterMap (operator.planFor? now after)).map Plan.container).Sublist
        (targets.map Target.container) :=
    map_filterMap_sublist fun target _ plan made => Operator.container_of_planFor? made
  have placed : ∀ pod, ∀ item ∈ items pod,
      pod.metadata.namespaceName = some item.pod.namespaceName := fun pod item mem =>
    Selector.namespaceName_of_mem_containers_select ((sublist _).subset mem)
  have flat (pods : List Pod) : pods.flatMap items =
      ((provider.targets pods).filterMap (operator.planFor? now after)).map Plan.container := by
    rw [targets, List.filterMap_flatMap, List.map_flatMap]
  have counted := Inventory.count_flatMap_of_perm placed perm container
  have distinct : ((inventory.running .cluster).flatMap items).Nodup := by
    rw [flat]
    exact (inventory.nodup_containers provider.selector).sublist (sublist _)
  rw [flat] at counted
  have atMost := List.nodup_iff_count_le_one.mp distinct container
  rcases Nat.le_one_iff_eq_zero_or_eq_one.mp atMost with absent | present
  · exact .inl (by rw [counted, absent, Nat.mul_zero])
  · exact .inr (by rw [counted, present, Nat.mul_one])

end Counts

/-- Listing the included namespaces against listing the whole cluster.  Each target of the whole
cluster is listed as often as its namespace, so that the two agree, and no container is listed
twice, exactly when the namespace of every target is listed once.  In a cycle a container has no
plan or as many plans as its namespace was listed, whatever was read of its usage. -/
theorem listed_as_often_as_namespace
    (shown : ∀ scope ∈ provider.scopes, inventory.ShownBy exchange scope)
    (listing : (provider.list exchange).run state = ((after, listed, events), last)) :
    let visits := provider.selector.filter.visits
    let whole := provider.targets (inventory.running .cluster)
    ∃ targets, listed = .ok targets ∧
      (∀ target, targets.count target =
        visits target.container.pod.namespaceName * whole.count target) ∧
      (targets.Perm whole ↔
        ∀ target ∈ whole, visits target.container.pod.namespaceName = 1) ∧
      ((targets.map Target.container).Nodup ↔
        ∀ target ∈ whole, visits target.container.pod.namespaceName = 1) ∧
      ∀ (controller next : Controller) (cycle : Cycle) (record : CycleRecord),
        cycle.observation = after.observe listed →
        controller.runCycle? cycle = some (next, record) →
        ∀ container, (record.plans.map Plan.container).count container = 0 ∨
          (record.plans.map Plan.container).count container =
            visits container.pod.namespaceName := by
  intro visits whole
  obtain ⟨pods, rfl, perm⟩ := exists_targets_of_shown shown listing
  refine ⟨_, rfl, count_targets perm, perm_iff_of_count (count_targets perm), ?_, ?_⟩
  · rw [nodup_iff_of_count (count_containers perm) (inventory.nodup_containers provider.selector),
      List.forall_mem_map]
    refine forall₂_congr fun target mem => ?_
    obtain ⟨pod, -, selected⟩ := List.mem_flatMap.mp mem
    have listedOnce := Selector.one_le_visits_of_mem_select selected
    exact ⟨fun atMost => Nat.le_antisymm atMost listedOnce, Nat.le_of_eq⟩
  · intro controller next cycle record observes ran container
    rcases Controller.runCycle?_cases ran with
      ⟨operator, error, rfl, rfl, -⟩ |
      ⟨readings, operator, executor, execution, observed, rfl, -, -, -, -, -, -, rfl⟩
    · exact .inl rfl
    · rw [Operator.plansFor_observe (observes.symm.trans observed)]
      exact count_container_plans perm controller.operator cycle.now after container

/-- A pod with one container that may use one core. -/
def onePod (namespaceName : String) : Pod where
  metadata := ⟨some "web", some namespaceName, none, none, []⟩
  containers := some [⟨"app", some ⟨[], [("cpu", "1")]⟩⟩]
  phase := some "Running"

/-- What is listed of the pod. -/
def oneTarget (namespaceName : String) : Target :=
  ⟨⟨⟨namespaceName, "web"⟩, "app"⟩, ⟨⟨0, 1000⟩, .unset⟩⟩

/-- A list of objects without any. -/
def emptyText : String := "\x7b\"metadata\":\x7b\x7d,\"items\":[]\x7d"

/-- The pod as the only one of its namespace. -/
def onePodText (namespaceName : String) : String :=
  "\x7b\"metadata\":\x7b\x7d,\"items\":[\x7b\"metadata\":\x7b\"namespace\":\"" ++ namespaceName ++
    "\",\"name\":\"web\"\x7d,\"spec\":\x7b\"containers\":[\x7b\"name\":\"app\",\"resources\":" ++
    "\x7b\"limits\":\x7b\"cpu\":\"1\"\x7d\x7d\x7d]\x7d,\"status\":\x7b\"phase\":" ++
    "\"Running\"\x7d\x7d]\x7d"

/-- The pod is the one, field by field. -/
def isOnePod (namespaceName : String) (pod : Pod) : Bool :=
  pod.metadata.name = some "web" ∧ pod.metadata.namespaceName = some namespaceName ∧
    pod.metadata.labels = none ∧ pod.metadata.deletion = none ∧
    pod.metadata.rest.isEmpty = true ∧ pod.containers = (onePod namespaceName).containers ∧
    pod.phase = some "Running"

/-- The text stands for the pod. -/
theorem read_onePodText : ∀ name ∈ ["default", "shop"],
    (Listing.form Pod.form).read (onePodText name) = .ok [onePod name] := by
  have readable : ∀ name ∈ ["default", "shop"],
      ((Listing.form Pod.form).read (onePodText name)).toOption.any (fun pods =>
        pods.length = 1 ∧ ∀ pod ∈ pods, isOnePod name pod = true) = true := by
    decide +kernel
  intro name mem
  obtain ⟨pods, read, same⟩ := (Option.any_eq_true _ _).mp (readable name mem)
  obtain ⟨single, same⟩ := of_decide_eq_true same
  obtain ⟨pod, rfl⟩ := List.length_eq_one_iff.mp single
  obtain ⟨⟨podName, namespaceName, labels, deletion, rest⟩, containers, phase⟩ := pod
  obtain ⟨rfl, rfl, rfl, rfl, none, rfl, rfl⟩ :=
    of_decide_eq_true (same _ (List.mem_singleton_self _))
  obtain rfl : rest = [] := List.isEmpty_iff.mp none
  exact toOption_eq_some_iff.mp read

/-- A cluster with a pod in each of two namespaces. -/
def shopInventory : Inventory where
  pods := [onePod "default", onePod "shop"]
  distinct_pods := by decide
  distinct_containers := by decide

/-- What this cluster answers under a path; there are no metrics. -/
def shopAnswer (path : String) : String :=
  if path = "/api/v1/namespaces/default/pods" then onePodText "default"
  else if path = "/api/v1/namespaces/shop/pods" then onePodText "shop"
  else emptyText

/-- A cluster that answers every request with `shopAnswer` and keeps no state. -/
def shopCluster (request : ApiRequest) : StateM Unit ApiReply :=
  pure (.answer 200 (shopAnswer request.path))

/-- A provider that looks at namespaces by their names. -/
def namedProvider (included excluded : List String) : Provider :=
  .ofSelector ⟨⟨included, excluded, NamespaceFilter.default.system⟩, ⟨"pod-sizing", none, none⟩⟩

/-- Both namespaces are shown. -/
theorem shownBy_namedProvider {included : List String} (excluded : List String)
    (named : included ≠ []) (known : included ⊆ ["default", "shop"]) :
    ∀ scope ∈ (namedProvider included excluded).scopes,
      shopInventory.ShownBy shopCluster scope := by
  have sent : ∀ name ∈ ["default", "shop"],
      (Listing.podsRequest (.within name)).targetFault? = none ∧
        shopAnswer (Listing.podsRequest (.within name)).path = onePodText name := by
    decide +kernel
  have running : ∀ name ∈ ["default", "shop"],
      shopInventory.running (.within name) = [onePod name] := by
    simp [Inventory.running, shopInventory, onePod, Scope.contains]
  intro scope mem state
  rw [scopes, Scope.ofFilter, if_neg (by simpa [namedProvider, ofSelector] using named)] at mem
  obtain ⟨name, isNamed, rfl⟩ := List.mem_map.mp mem
  obtain ⟨isSent, answered⟩ := sent name (known isNamed)
  refine ⟨[onePod name], state, ?_, by rw [running name (known isNamed)]⟩
  simp only [ApiRequest.send, isSent, shopCluster, answered, pure_bind, ApiReply.read,
    read_onePodText name (known isNamed)]
  rfl

/-- A namespace that is included twice, and excluded as well, does not matter: the targets are those
of the whole cluster, each once. -/
theorem listed_as_often_as_namespace_excluded :
    let provider := namedProvider ["shop", "default", "shop"] ["shop"]
    ∃ targets, ((provider.list shopCluster).run ()).1.2.1 = .ok targets ∧
      targets.Perm (provider.targets (shopInventory.running .cluster)) ∧
      (targets.map Target.container).Nodup := by
  intro provider
  obtain ⟨⟨⟨after, listed, events⟩, last⟩, listing⟩ :
      ∃ listing, (provider.list shopCluster).run () = listing := ⟨_, rfl⟩
  have shown : ∀ scope ∈ provider.scopes, shopInventory.ShownBy shopCluster scope :=
    shownBy_namedProvider ["shop"] (by decide) (by decide)
  obtain ⟨targets, isOk, -, perm, nodup, -⟩ := listed_as_often_as_namespace shown listing
  have once : ∀ target ∈ provider.targets (shopInventory.running .cluster),
      provider.selector.filter.visits target.container.pod.namespaceName = 1 := by
    decide +kernel
  exact ⟨targets, by rw [listing]; exact isOk, perm.mpr once, nodup.mpr once⟩

/-- A namespace that is included twice has its container listed twice, where listing the whole
cluster gives it once. -/
theorem container_listed_twice :
    let provider := namedProvider ["default", "default"] []
    let target := oneTarget "default"
    (∀ scope ∈ provider.scopes, shopInventory.ShownBy shopCluster scope) ∧
      ((provider.list shopCluster).run ()).1.2.1 = .ok [target, target] ∧
      provider.targets (shopInventory.running .cluster) = [target] := by
  intro provider target
  have shown : ∀ scope ∈ provider.scopes, shopInventory.ShownBy shopCluster scope :=
    shownBy_namedProvider [] (by decide) (by decide)
  obtain ⟨⟨⟨after, listed, events⟩, last⟩, listing⟩ :
      ∃ listing, (provider.list shopCluster).run () = listing := ⟨_, rfl⟩
  obtain ⟨pods, rfl, perm⟩ := exists_targets_of_shown shown listing
  have twice : provider.scopes.flatMap shopInventory.running =
      List.replicate 2 (onePod "default") := rfl
  rw [twice, List.perm_replicate] at perm
  have selected : provider.targets (List.replicate 2 (onePod "default")) = [target, target] := by
    decide +kernel
  exact ⟨shown, by rw [listing, perm, selected], by decide +kernel⟩

end Provider

end PodSizing
