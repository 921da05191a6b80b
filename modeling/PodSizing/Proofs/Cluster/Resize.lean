import PodSizing.Cluster.Resize
import PodSizing.Proofs.Json
import PodSizing.Proofs.Quantity

/-!
# Reading back what was written

The body of a resize is merged into what is configured, one quantity after the other, and the
result is read again in the next cycle.  What comes back is what was configured before with the
values of the plan's patches in place, so that no rounding makes a limit drift.
-/

namespace PodSizing

open Json

/-- The largest amount that is read back as it was written, whatever it is. -/
def Dimension.largest : Dimension → Nat
  | .cpu => Nat.pow 10 9
  | .memory => Nat.pow 2 53 - 1

theorem Quantity.amount_text {dimension : Dimension} {amount : Nat}
    (le : amount ≤ dimension.largest) :
    Quantity.amount dimension (Quantity.text dimension amount) = .ok amount := by
  cases dimension with
  | cpu => exact Quantity.millicores_cpuText le
  | memory => exact Quantity.wholeBytes_memoryText (Nat.lt_of_le_sub_one (by decide) le)

/-! ### The merge of a patch -/

namespace Requirements

/-- Quantities with others written over them, name by name. -/
def overlay (quantities others : List (String × String)) : List (String × String) :=
  others.foldr (fun entry quantities => write quantities entry.1 entry.2) quantities

theorem lookup_overlay (quantities others : List (String × String)) (name : String) :
    (overlay quantities others).lookup name = (others.lookup name).or (quantities.lookup name) := by
  induction others with
  | nil => rfl
  | cons entry rest ih =>
      obtain ⟨key, text⟩ := entry
      rw [overlay, List.foldr_cons, ← overlay, lookup_write, ih]
      by_cases same : name = key
      · rw [if_pos same, same, List.lookup_cons_self]
        rfl
      · rw [if_neg same, List.lookup_cons, beq_eq_false_iff_ne.mpr same]

/-- The entry of the container of a name in the body of a patch. -/
def entry? (container : String) (body : Json) : Option Json := do
  let entries ← asList? some (← (← body.field? "spec").field? "containers")
  entries.find? fun entry => (entry.field? "name").bind asText? == some container

/-- The requirements of the container of a name after the merge of the body of a patch: the
quantities of its entry are written over them, and all others stay. -/
def mergeBody? (requirements : Requirements) (container : String) (body : Json) :
    Option Requirements := do
  let entry ← entry? container body
  let given ← ofJson? (← entry.field? "resources")
  some ⟨overlay requirements.requests given.requests, overlay requirements.limits given.limits⟩

end Requirements

/-! ### The body of a resize -/

namespace Requirements

/-- The quantities after a patch whose value is one of the two. -/
private def writeValue (value : Patch → Option Nat) (quantities : List (String × String))
    (patch : Patch) : List (String × String) :=
  match value patch with
  | some amount => write quantities patch.dimension.name (Quantity.text patch.dimension amount)
  | .none => quantities

private theorem merge_eq (requirements : Requirements) (patches : List Patch) :
    requirements.merge patches =
      ⟨patches.foldl (writeValue Patch.request) requirements.requests,
        patches.foldl (writeValue Patch.limit) requirements.limits⟩ := by
  induction patches generalizing requirements with
  | nil => rfl
  | cons patch rest ih => exact ih (requirements.writePatch patch)

theorem nodup_write {quantities : List (String × String)}
    (distinct : (quantities.map Prod.fst).Nodup) (name text : String) :
    ((write quantities name text).map Prod.fst).Nodup := by
  rw [write, List.map_cons, List.nodup_cons]
  constructor
  · simp
  · exact List.Nodup.sublist (List.Sublist.map _ List.filter_sublist) distinct

private theorem nodup_foldl_writeValue (value : Patch → Option Nat) (patches : List Patch)
    {quantities : List (String × String)} (distinct : (quantities.map Prod.fst).Nodup) :
    ((patches.foldl (writeValue value) quantities).map Prod.fst).Nodup := by
  induction patches generalizing quantities with
  | nil => exact distinct
  | cons patch rest ih =>
      apply ih
      unfold writeValue
      split
      · exact nodup_write distinct ..
      · exact distinct

/-- What a patch of a plan leaves under the name of a dimension. -/
private theorem lookup_writeValue (value : Patch → Option Nat) (plan : Plan)
    (quantities : List (String × String)) (written dimension : Dimension) :
    (writeValue value quantities (plan.patch written)).lookup dimension.name =
      ((if dimension = written then value (plan.patch dimension) else .none).map
        (Quantity.text dimension)).or (quantities.lookup dimension.name) := by
  unfold writeValue
  by_cases same : dimension = written
  · subst written
    rw [if_pos rfl, Plan.dimension_patch]
    cases value (plan.patch dimension) with
    | none => rfl
    | some amount =>
        simp only [lookup_write, if_true]
        rfl
  · rw [if_neg same, Plan.dimension_patch]
    cases value (plan.patch written) with
    | none => rfl
    | some amount =>
        simp only [lookup_write, Dimension.name_inj, if_neg same]
        rfl

/-- What the patches of a plan leave under the name of a dimension. -/
private theorem lookup_foldl_writeValue (value : Patch → Option Nat) (plan : Plan)
    (dimensions : List Dimension) (quantities : List (String × String)) (dimension : Dimension) :
    ((dimensions.map plan.patch).foldl (writeValue value) quantities).lookup dimension.name =
      ((if dimension ∈ dimensions then value (plan.patch dimension) else .none).map
        (Quantity.text dimension)).or (quantities.lookup dimension.name) := by
  induction dimensions generalizing quantities with
  | nil => rfl
  | cons first rest ih =>
      rw [List.map_cons, List.foldl_cons, ih, lookup_writeValue]
      by_cases later : dimension ∈ rest
      · rw [if_pos later, if_pos (List.mem_cons_of_mem first later)]
        cases value (plan.patch dimension) <;> simp
      · rw [if_neg later]
        simp [later]

/-- A dimension has the amount of the plan's patch where there is one. -/
private theorem amount_of_lookup {dimension : Dimension}
    {quantities written : List (String × String)} {value : Option Nat} {old : Nat}
    (read : amount dimension quantities = .ok old)
    (le : ∀ new, value = some new → new ≤ dimension.largest)
    (found : written.lookup dimension.name =
      (value.map (Quantity.text dimension)).or (quantities.lookup dimension.name)) :
    amount dimension written = .ok (value.getD old) := by
  cases value with
  | none =>
      rw [amount, found]
      exact read
  | some new =>
      rw [amount, found]
      show (Quantity.amount dimension (Quantity.text dimension new)).mapError _ = _
      rw [Quantity.amount_text (le new rfl)]
      rfl

private theorem allocation_eq_ok_iff {requirements : Requirements} {dimension : Dimension}
    {allocation : Allocation} :
    requirements.allocation dimension = .ok allocation ↔
      amount dimension requirements.requests = .ok allocation.request ∧
        amount dimension requirements.limits = .ok allocation.limit := by
  obtain ⟨request, limit⟩ := allocation
  cases requested : amount dimension requirements.requests <;>
    cases limited : amount dimension requirements.limits <;>
    simp [Requirements.allocation, requested, limited, bind, Except.bind, pure, Except.pure]

/-- The requirements can be read when each of the four amounts can. -/
theorem allocations_eq_ok_iff {requirements : Requirements}
    {allocations : PerDimension Allocation} :
    requirements.allocations = .ok allocations ↔
      ∀ dimension, amount dimension requirements.requests =
          .ok (allocations.get dimension).request ∧
        amount dimension requirements.limits = .ok (allocations.get dimension).limit := by
  obtain ⟨cpu, memory⟩ := allocations
  have both : requirements.allocations = .ok ⟨cpu, memory⟩ ↔
      requirements.allocation .cpu = .ok cpu ∧ requirements.allocation .memory = .ok memory := by
    cases cpuRead : requirements.allocation .cpu <;>
      cases memoryRead : requirements.allocation .memory <;>
      simp [Requirements.allocations, cpuRead, memoryRead, bind, Except.bind, pure, Except.pure]
  rw [both, allocation_eq_ok_iff, allocation_eq_ok_iff]
  constructor
  · rintro ⟨ofCpu, ofMemory⟩ dimension
    cases dimension with
    | cpu => exact ofCpu
    | memory => exact ofMemory
  · intro ofEach
    exact ⟨ofEach .cpu, ofEach .memory⟩

end Requirements

/-- A patch of a plan has no value but the target. -/
theorem Plan.eq_target_of_patch {plan : Plan} {dimension : Dimension} {amount : Nat}
    (value : (plan.patch dimension).request = some amount ∨
      (plan.patch dimension).limit = some amount) :
    amount = (plan.decisions.get dimension).target := by
  unfold Plan.patch Patch.ofDecision at value
  split at value
  · rcases value with request | limit
    · exact (Option.some.inj (Option.ite_none_right_eq_some.mp request).2).symm
    · exact (Option.some.inj limit).symm
  · rcases value with request | limit
    · exact (Option.some.inj request).symm
    · contradiction

namespace ResizeRequest

/-- What a request writes under a name has it once. -/
private theorem nodup_requirements (request : ResizeRequest) :
    (request.requirements.requests.map Prod.fst).Nodup ∧
      (request.requirements.limits.map Prod.fst).Nodup := by
  rw [requirements, Requirements.merge_eq]
  exact ⟨Requirements.nodup_foldl_writeValue _ _ List.nodup_nil,
    Requirements.nodup_foldl_writeValue _ _ List.nodup_nil⟩

/-- Quantities under a name, where there are any. -/
private def quantityFields (name : String) (quantities : List (String × String)) :
    List (String × Json) :=
  if quantities.isEmpty then [] else [(name, .ofFields (textFields quantities))]

/-- The resources of the container in the body of a request. -/
private def resources (request : ResizeRequest) : List (String × Json) :=
  quantityFields "requests" request.requirements.requests ++
    quantityFields "limits" request.requirements.limits

/-- The entry of the container in the body of a request. -/
private def entry (request : ResizeRequest) : List (String × Json) :=
  [("name", .string request.container.container), ("resources", .ofFields request.resources)]

private theorem body_eq (request : ResizeRequest) :
    request.body =
      .ofFields [("spec", .ofFields [("containers", .array [.ofFields request.entry])])] := rfl

private theorem field?_entry (request : ResizeRequest) (key : String) :
    (Json.ofFields request.entry).field? key = request.entry.lookup key :=
  field?_ofFields (by rw [entry]; simp) key

/-- The body of a request has one entry, for its container. -/
private theorem entry?_body (request : ResizeRequest) :
    Requirements.entry? request.container.container request.body =
      some (.ofFields request.entry) := by
  have named : ((Json.ofFields request.entry).field? "name").bind asText? =
      some request.container.container := by
    rw [field?_entry]
    rfl
  rw [Requirements.entry?, body_eq, field?_ofFields (by simp), List.lookup_cons_self,
    Option.bind_eq_bind, Option.bind_some, field?_ofFields (by simp), List.lookup_cons_self]
  simp [asList?, named]

/-- Quantities that are read are those that were written. -/
private theorem exists_optional?_quantities {fields : List (String × Json)} {name : String}
    {quantities : List (String × String)} (distinct : (quantities.map Prod.fst).Nodup)
    (written : fields.lookup name = (quantityFields name quantities).lookup name) :
    ∃ read, ClusterObject.optional? ClusterObject.asTextMap? fields name = some read ∧
      ∀ other, (read.getD []).lookup other = quantities.lookup other := by
  cases quantities with
  | nil => exact ⟨none, ClusterObject.optional?_of_lookup_eq_none _ written, fun _ => rfl⟩
  | cons first rest =>
      obtain ⟨read, decoded, same⟩ := ClusterObject.exists_asTextMap?_ofFields distinct
      refine ⟨some read, ?_, same⟩
      have there : fields.lookup name = some (.ofFields (textFields (first :: rest))) :=
        written.trans List.lookup_cons_self
      rw [ClusterObject.optional?, there]
      show (ClusterObject.asTextMap? (.ofFields (textFields (first :: rest)))).map some = _
      rw [decoded]
      rfl

/-- Nothing stands under another name. -/
private theorem lookup_quantityFields (name other : String)
    (quantities : List (String × String)) (ne : other ≠ name) :
    (quantityFields name quantities).lookup other = none := by
  rw [quantityFields]
  split
  · rfl
  · rw [List.lookup_cons, beq_eq_false_iff_ne.mpr ne, List.lookup_nil]

/-- The resources of a request are read as what it writes. -/
private theorem exists_ofJson?_resources (request : ResizeRequest) :
    ∃ given, Requirements.ofJson? (.ofFields request.resources) = some given ∧
      (∀ name, given.requests.lookup name = request.requirements.requests.lookup name) ∧
      (∀ name, given.limits.lookup name = request.requirements.limits.lookup name) := by
  obtain ⟨requestsDistinct, limitsDistinct⟩ := request.nodup_requirements
  have distinct : (request.resources.map Prod.fst).Nodup := by
    unfold resources quantityFields
    split <;> split <;> simp
  obtain ⟨fields, object⟩ : ∃ fields, Json.ofFields request.resources = .object fields := ⟨_, rfl⟩
  have found (key : String) : fields.lookup key = request.resources.lookup key := by
    have same := field?_ofFields distinct key
    rwa [object] at same
  have noClaims : fields.lookup "claims" = none := by
    rw [found, resources, List.lookup_append, lookup_quantityFields _ _ _ (by decide),
      lookup_quantityFields _ _ _ (by decide)]
    rfl
  have requestsFound : fields.lookup "requests" =
      (quantityFields "requests" request.requirements.requests).lookup "requests" := by
    rw [found, resources, List.lookup_append, lookup_quantityFields "limits" _ _ (by decide),
      Option.or_none]
  have limitsFound : fields.lookup "limits" =
      (quantityFields "limits" request.requirements.limits).lookup "limits" := by
    rw [found, resources, List.lookup_append, lookup_quantityFields "requests" _ _ (by decide),
      Option.none_or]
  obtain ⟨requests, requestsRead, requestsSame⟩ :=
    exists_optional?_quantities requestsDistinct requestsFound
  obtain ⟨limits, limitsRead, limitsSame⟩ := exists_optional?_quantities limitsDistinct limitsFound
  refine ⟨⟨requests.getD [], limits.getD []⟩, ?_, requestsSame, limitsSame⟩
  rw [object, Requirements.ofJson?]
  simp [ClusterObject.fields?, ClusterObject.optional?_of_lookup_eq_none _ noClaims, requestsRead,
    limitsRead]

end ResizeRequest

namespace Requirements

/-- The merge of a body writes what the request writes over what there is. -/
private theorem exists_mergeBody? (requirements : Requirements) (plan : Plan)
    (dimensions : List Dimension) :
    ∃ merged, requirements.mergeBody? plan.container.container (plan.request dimensions).body =
        some merged ∧
      ∀ dimension,
        merged.requests.lookup dimension.name =
          ((if dimension ∈ dimensions then (plan.patch dimension).request else .none).map
            (Quantity.text dimension)).or (requirements.requests.lookup dimension.name) ∧
        merged.limits.lookup dimension.name =
          ((if dimension ∈ dimensions then (plan.patch dimension).limit else .none).map
            (Quantity.text dimension)).or (requirements.limits.lookup dimension.name) := by
  obtain ⟨given, read, requestsSame, limitsSame⟩ :=
    (plan.request dimensions).exists_ofJson?_resources
  have written : (plan.request dimensions).requirements = _ :=
    merge_eq .none (dimensions.map plan.patch)
  refine ⟨⟨overlay requirements.requests given.requests,
    overlay requirements.limits given.limits⟩, ?_, ?_⟩
  · have entry : entry? plan.container.container (plan.request dimensions).body =
        some (.ofFields (plan.request dimensions).entry) := (plan.request dimensions).entry?_body
    have there : (Json.ofFields (plan.request dimensions).entry).field? "resources" =
        some (.ofFields (plan.request dimensions).resources) := by
      rw [ResizeRequest.field?_entry]
      rfl
    simp [mergeBody?, entry, there, read]
  · intro dimension
    rw [lookup_overlay, lookup_overlay, requestsSame, limitsSame, written,
      lookup_foldl_writeValue, lookup_foldl_writeValue]
    simp [Requirements.none]

/-- What is written by a resize is read back: after the merge of its body the requirements have
the values of the plan's patches in the dimensions that were asked for, and nothing else changes.
All amounts of CPU up to a million cores and of memory below `2 ^ 53` bytes are read back as they
were written. -/
theorem resize_reads_back {requirements : Requirements} {plan : Plan}
    (parsed : requirements.allocations = .ok plan.allocation)
    (cpuLe : (plan.decisions.get .cpu).target ≤ Nat.pow 10 9)
    (memoryLt : (plan.decisions.get .memory).target < Nat.pow 2 53) :
    (∀ dimensions, ∃ merged,
      requirements.mergeBody? plan.container.container (plan.request dimensions).body =
        some merged ∧
      merged.allocations = .ok (.ofFn fun dimension =>
        if dimension ∈ dimensions then
          (plan.patch dimension).write (plan.allocation.get dimension)
        else plan.allocation.get dimension)) ∧
    (∀ amount ≤ Nat.pow 10 9, Quantity.millicores (Quantity.cpuText amount) = .ok amount) ∧
    (∀ amount < Nat.pow 2 53, Quantity.wholeBytes (Quantity.memoryText amount) = .ok amount) := by
  refine ⟨?_, fun _ => Quantity.millicores_cpuText, fun _ => Quantity.wholeBytes_memoryText⟩
  intro dimensions
  obtain ⟨merged, eq, found⟩ := exists_mergeBody? requirements plan dimensions
  refine ⟨merged, eq, ?_⟩
  rw [allocations_eq_ok_iff] at parsed ⊢
  intro dimension
  have targetLe : (plan.decisions.get dimension).target ≤ dimension.largest := by
    cases dimension with
    | cpu => exact cpuLe
    | memory => exact Nat.le_sub_one_of_lt memoryLt
  obtain ⟨requestFound, limitFound⟩ := found dimension
  obtain ⟨requestRead, limitRead⟩ := parsed dimension
  rw [PerDimension.get_ofFn]
  by_cases asked : dimension ∈ dimensions
  · rw [if_pos asked] at requestFound limitFound ⊢
    constructor
    · apply amount_of_lookup requestRead _ requestFound
      intro new value
      exact Plan.eq_target_of_patch (.inl value) ▸ targetLe
    · apply amount_of_lookup limitRead _ limitFound
      intro new value
      exact Plan.eq_target_of_patch (.inr value) ▸ targetLe
  · rw [if_neg asked] at requestFound limitFound ⊢
    exact ⟨amount_of_lookup requestRead (by simp) requestFound,
      amount_of_lookup limitRead (by simp) limitFound⟩

end Requirements

/-- Requirements as a user may have written them, with a resource that is not sized. -/
def mixedRequirements : Requirements where
  requests := [("cpu", "0.25"), ("ephemeral-storage", "1Gi"), ("memory", "1.5Gi")]
  limits := [("cpu", "250m"), ("memory", "2G")]

/-- A plan that moves the limit of CPU with the request, and the limit of memory below the
request. -/
def mixedPlan : Plan where
  container := ⟨⟨"default", "web"⟩, "app"⟩
  decisions :=
    ⟨⟨.cpu, .scaleUp, 250, 333, .zero false⟩,
      ⟨.memory, .scaleDown, 2000000000, 1073741825, .zero false⟩⟩
  allocation := ⟨⟨250, 250⟩, ⟨1610612736, 2000000000⟩⟩

theorem Requirements.resize_reads_back_mixed :
    mixedRequirements.allocations = .ok mixedPlan.allocation ∧
    (∃ merged,
      mixedRequirements.mergeBody? "app" (mixedPlan.request [.memory]).body = some merged ∧
      merged.allocations = .ok ⟨⟨250, 250⟩, ⟨1073741825, 1073741825⟩⟩) ∧
    ∃ merged,
      mixedRequirements.mergeBody? "app" (mixedPlan.request [.cpu, .memory]).body = some merged ∧
      merged.allocations = .ok ⟨⟨333, 333⟩, ⟨1073741825, 1073741825⟩⟩ := by
  have read : mixedRequirements.allocations.toOption = some mixedPlan.allocation := by
    decide +kernel
  have parsed : mixedRequirements.allocations = .ok mixedPlan.allocation := by
    cases eq : mixedRequirements.allocations with
    | error error =>
        rw [eq] at read
        contradiction
    | ok allocation =>
        rw [eq] at read
        exact congrArg Except.ok (Option.some.inj read)
  obtain ⟨reads, -⟩ := resize_reads_back parsed (by decide) (by decide)
  exact ⟨parsed, reads [.memory], reads [.cpu, .memory]⟩

end PodSizing
