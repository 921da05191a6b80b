import Mathlib.Data.List.Induction
import PodSizing.Proofs.Cluster.Eligibility
import PodSizing.Proofs.Cluster.Scopes
import PodSizing.Proofs.Lookup

/-!
# No stale usage

A provider answers from the metrics of its last listing that succeeded and from nothing else.  For a
container it gives the last entry there that can be read, and nothing when there is none or when the
metrics of some namespace could not be listed.
-/

namespace PodSizing

/-- Of the entries for a container, the last one that can be read has these amounts. -/
def LastReadable (entries : List (ContainerId × ContainerMetrics)) (container : ContainerId)
    (amounts : PerDimension Nat) : Prop :=
  ∃ before entry after, entries = before ++ (container, entry) :: after ∧
    entry.amounts = .ok amounts ∧
    ∀ other, (container, other) ∈ after → ∀ read, other.amounts ≠ .ok read

namespace LastReadable

variable {entries : List (ContainerId × ContainerMetrics)} {container : ContainerId}
  {amounts : PerDimension Nat}

theorem not_nil : ¬ LastReadable [] container amounts := by
  rintro ⟨before, entry, after, split, -⟩
  exact List.append_ne_nil_of_right_ne_nil before (List.cons_ne_nil _ after) split.symm

/-- The last of some entries counts if it is for the container and can be read; failing that, the
entries before it decide. -/
theorem concat_iff {last : ContainerId × ContainerMetrics} :
    LastReadable (entries ++ [last]) container amounts ↔
      (last.1 = container ∧ last.2.amounts = .ok amounts) ∨
        (last.1 = container → ∀ read, last.2.amounts ≠ .ok read) ∧
          LastReadable entries container amounts := by
  constructor
  · rintro ⟨before, entry, after, split, read, unreadable⟩
    rcases List.eq_nil_or_concat after with rfl | ⟨others, final, rfl⟩
    · obtain ⟨-, same⟩ := List.append_inj' split rfl
      cases same
      exact .inl ⟨rfl, read⟩
    · rw [List.concat_eq_append, ← List.cons_append, ← List.append_assoc] at split
      obtain ⟨rfl, same⟩ := List.append_inj' split rfl
      cases same
      rw [List.concat_eq_append] at unreadable
      refine .inr ⟨?_, before, entry, others, rfl, read, fun other mem =>
        unreadable other (List.mem_append_left _ mem)⟩
      rintro rfl
      exact unreadable last.2 (List.mem_append_right _ (List.mem_singleton_self last))
  · rintro (⟨rfl, read⟩ | ⟨unreadable, before, entry, after, rfl, read, others⟩)
    · exact ⟨entries, last.2, [], rfl, read, fun _ mem => absurd mem List.not_mem_nil⟩
    · refine ⟨before, entry, after ++ [last], by simp, read, fun other mem => ?_⟩
      rcases List.mem_append.mp mem with inAfter | isLast
      · exact others other inAfter
      · obtain rfl := List.mem_singleton.mp isLast
        exact unreadable rfl

/-- There is a last entry that can be read where there is any. -/
theorem exists_iff : (∃ amounts, LastReadable entries container amounts) ↔
    ∃ entry amounts, (container, entry) ∈ entries ∧ entry.amounts = .ok amounts := by
  constructor
  · rintro ⟨amounts, before, entry, after, rfl, read, -⟩
    exact ⟨entry, amounts, List.mem_append_right before List.mem_cons_self, read⟩
  · rintro ⟨entry, amounts, mem, read⟩
    induction entries using List.reverseRecOn with
    | nil => contradiction
    | append_singleton entries last ih =>
        by_cases counts : last.1 = container ∧ ∃ others, last.2.amounts = .ok others
        · obtain ⟨same, others, readLast⟩ := counts
          exact ⟨others, concat_iff.mpr (.inl ⟨same, readLast⟩)⟩
        · have unreadable : last.1 = container → ∀ others, last.2.amounts ≠ .ok others :=
            fun same others readLast => counts ⟨same, others, readLast⟩
          rcases List.mem_append.mp mem with earlier | isLast
          · obtain ⟨others, found⟩ := ih earlier
            exact ⟨others, concat_iff.mpr (.inr ⟨unreadable, found⟩)⟩
          · obtain rfl := List.mem_singleton.mp isLast
            exact absurd read (unreadable rfl amounts)

end LastReadable

namespace UsageSnapshot

variable {container : ContainerId} {amounts : PerDimension Nat}

theorem get?_note (snapshot : UsageSnapshot) (container other : ContainerId)
    (amounts : PerDimension Nat) :
    (snapshot.note container amounts).get? other =
      if other = container then some amounts else snapshot.get? other := by
  simp only [get?, note, List.lookup_cons]
  by_cases eq : other = container
  · simp [eq]
  · simp [eq, lookup_filter_ne eq, beq_eq_false_iff_ne.2 eq]

/-- The amounts of an entry that can be read, with the name of its container. -/
def readable? (entry : ContainerId × ContainerMetrics) : Option (ContainerId × PerDimension Nat) :=
  entry.2.amounts.toOption.map fun amounts => (entry.1, amounts)

/-- The snapshot of some entries in their order. -/
def ofEntries (entries : List (ContainerId × ContainerMetrics)) : UsageSnapshot :=
  (entries.filterMap readable?).foldl (fun snapshot (container, amounts) =>
    snapshot.note container amounts) empty

theorem ofMetrics_eq_ofEntries (metrics : List PodMetrics) :
    ofMetrics metrics = ofEntries (metrics.flatMap PodMetrics.named) := by
  rw [ofMetrics, ofEntries, List.filterMap_flatMap]
  rfl

/-- One more entry replaces what the entries before it say of the same container, if it can be
read. -/
theorem get?_ofEntries_concat (entries : List (ContainerId × ContainerMetrics))
    (last : ContainerId × ContainerMetrics) (container : ContainerId) :
    (ofEntries (entries ++ [last])).get? container =
      match last.2.amounts with
      | .ok amounts =>
          if container = last.1 then some amounts else (ofEntries entries).get? container
      | .error _ => (ofEntries entries).get? container := by
  rw [ofEntries, List.filterMap_append, List.foldl_append]
  cases read : last.2.amounts with
  | error error => simp [readable?, read, Except.toOption, ofEntries]
  | ok amounts => simp [readable?, read, Except.toOption, ofEntries, get?_note]

/-- A snapshot has the usage of the last entry that can be read. -/
theorem get?_ofEntries_eq_some_iff {entries : List (ContainerId × ContainerMetrics)} :
    (ofEntries entries).get? container = some amounts ↔
      LastReadable entries container amounts := by
  induction entries using List.reverseRecOn with
  | nil => exact iff_of_false nofun LastReadable.not_nil
  | append_singleton entries last ih =>
      rw [get?_ofEntries_concat, LastReadable.concat_iff, ← ih]
      cases read : last.2.amounts with
      | error error => simp
      | ok others =>
          by_cases same : container = last.1
          · simp [same]
          · simp [same, Ne.symm same]

end UsageSnapshot

/-- The results of listing the metrics of one scope after the other. -/
abbrev MetricsAttempts := List (Scope × Except ListingError (List PodMetrics))

/-- What the metrics of a listing of some scopes say of a target: every scope was listed, and the
usage is that of the last entry for the container that can be read. -/
structure Sample.IsFrom (sample : Sample) (scopes : List Scope) (attempts : MetricsAttempts)
    (target : Target) : Prop where
  container : sample.container = target.container
  allocation : sample.allocation = target.allocation
  usage : ∃ lists, attempts = successes lists ∧ lists.map Prod.fst = scopes ∧
    LastReadable ((lists.flatMap Prod.snd).flatMap PodMetrics.named) target.container sample.usage

/-- An answer from the metrics of a listing and from nothing else. -/
structure IsFreshAnswer (scopes : List Scope) (attempts : MetricsAttempts) (target : Target)
    (answer : Option Sample) : Prop where
  served : ∀ sample, answer = some sample ↔ sample.IsFrom scopes attempts target
  /-- Without an entry that can be read there is no answer. -/
  unread : (∀ lists, attempts = successes lists → ∀ entry,
    (target.container, entry) ∈ (lists.flatMap Prod.snd).flatMap PodMetrics.named →
      ∀ read, entry.amounts ≠ .ok read) → answer = none
  /-- Nor is there any when a scope could not be listed. -/
  failed : ∀ scope error, (scope, .error error) ∈ attempts → answer = none

namespace Listing

variable {σ : Type}

/-- The results of listing the metrics of some scopes, up to the first failure. -/
def metricsAttempts (exchange : ApiRequest → StateM σ ApiReply) (scopes : List Scope) :
    StateM σ MetricsAttempts :=
  listAttempts (fun scope => do
    let items ← (metricsRequest scope).send (form PodMetrics.form) exchange
    return items.mapError fun cause => ⟨"pod metrics", scope, cause⟩) scopes

theorem metrics_eq_gather (exchange : ApiRequest → StateM σ ApiReply) (scopes : List Scope) :
    metrics exchange scopes = gather <$> metricsAttempts exchange scopes :=
  listScopes_eq_gather _ scopes

end Listing

/-- What happens to a provider. -/
inductive ProviderEvent (σ : Type) where
  /-- A listing, with the state in which it found the cluster. -/
  | listed (begun : σ) (result : Except ListingError (List Target))
  | sampled (target : Target) (answer : Option Sample)

namespace Provider

variable {σ : Type} {exchange : ApiRequest → StateM σ ApiReply} {provider last : Provider}
  {events : List (ProviderEvent σ)}

/-- A provider is used again and again.  In between the cluster may change in any way. -/
inductive History (exchange : ApiRequest → StateM σ ApiReply) :
    Provider → List (ProviderEvent σ) → Provider → Prop
  | nil {provider : Provider} : History exchange provider [] provider
  | listed {provider after last : Provider} {begun ended : σ}
      {result : Except ListingError (List Target)} {messages : List Event}
      {rest : List (ProviderEvent σ)}
      (ran : (provider.list exchange).run begun = ((after, result, messages), ended))
      (further : History exchange after rest last) :
      History exchange provider (.listed begun result :: rest) last
  | sampled {provider last : Provider} {target : Target} {rest : List (ProviderEvent σ)}
      (further : History exchange provider rest last) :
      History exchange provider (.sampled target (provider.sample? target) :: rest) last

/-- The provider after some events, if they can happen to it. -/
def replay? (exchange : ApiRequest → StateM σ ApiReply) (provider : Provider) :
    List (ProviderEvent σ) → Option Provider
  | [] => some provider
  | .listed begun result :: rest =>
      let ((after, listed, _), _) := (provider.list exchange).run begun
      if listed = result then replay? exchange after rest else none
  | .sampled target answer :: rest =>
      if provider.sample? target = answer then replay? exchange provider rest else none

/-- A listing that begins in the given state brings these targets, and of the metrics these
results. -/
def Brings (provider : Provider) (exchange : ApiRequest → StateM σ ApiReply) (begun : σ)
    (targets : List Target) (attempts : MetricsAttempts) : Prop :=
  ∃ pods middle ended, (Listing.pods exchange provider.scopes).run begun = (.ok pods, middle) ∧
    targets = provider.targets pods ∧
    (Listing.metricsAttempts exchange provider.scopes).run middle = (attempts, ended)

section Congruence

variable {other : Provider} (same : other.selector = provider.selector)
include same

theorem scopes_congr : other.scopes = provider.scopes := by rw [scopes, same, ← scopes]

/-- What a listing brings does not depend on what was read before. -/
theorem brings_congr : other.Brings exchange = provider.Brings exchange := by
  funext begun targets attempts
  simp only [Brings, scopes_congr same, Provider.targets, same]

end Congruence

/-- After a listing the provider has what its metrics say. -/
theorem sample?_refresh_eq_some_iff {attempts : MetricsAttempts} {target : Target}
    {sample : Sample} :
    (provider.refresh (gather attempts)).sample? target = some sample ↔
      sample.container = target.container ∧ sample.allocation = target.allocation ∧
        ∃ lists, attempts = successes lists ∧
          LastReadable ((lists.flatMap Prod.snd).flatMap PodMetrics.named) target.container
            sample.usage := by
  rw [sample?, Option.map_eq_some_iff]
  cases gathered : gather attempts with
  | error error =>
      refine iff_of_false nofun ?_
      rintro ⟨-, -, lists, same, -⟩
      have succeeded := gather_eq_ok_iff.mpr ⟨lists, same, rfl⟩
      exact nomatch gathered.symm.trans succeeded
  | ok metrics =>
      obtain ⟨lists, rfl, rfl⟩ := gather_eq_ok_iff.mp gathered
      have read (amounts : PerDimension Nat) :
          (provider.refresh (.ok (lists.flatMap Prod.snd))).snapshot.get? target.container =
              some amounts ↔
            LastReadable ((lists.flatMap Prod.snd).flatMap PodMetrics.named) target.container
              amounts := by
        rw [refresh, UsageSnapshot.ofMetrics_eq_ofEntries,
          UsageSnapshot.get?_ofEntries_eq_some_iff]
      simp only [read]
      constructor
      · rintro ⟨amounts, last, rfl⟩
        exact ⟨rfl, rfl, lists, rfl, last⟩
      · rintro ⟨container, allocation, others, same, last⟩
        have sameMetrics := gather_eq_ok_iff.mpr ⟨others, same, rfl⟩
        rw [gathered] at sameMetrics
        rw [← Except.ok.inj sameMetrics] at last
        exact ⟨sample.usage, last, by rw [← container, ← allocation]⟩

/-- What the provider answers then is fresh. -/
theorem isFreshAnswer_of_attempts {scopes : List Scope} {middle ended : σ}
    {attempts : MetricsAttempts}
    (ran : (Listing.metricsAttempts exchange scopes).run middle = (attempts, ended))
    (target : Target) :
    IsFreshAnswer scopes attempts target
      ((provider.refresh (gather attempts)).sample? target) := by
  refine ⟨fun sample => ?_, fun unreadable => ?_, fun scope error failed => ?_⟩
  · rw [sample?_refresh_eq_some_iff]
    constructor
    · rintro ⟨container, allocation, lists, rfl, last⟩
      exact ⟨container, allocation, lists, rfl, scopes_of_listAttempts ran, last⟩
    · rintro ⟨container, allocation, lists, same, -, last⟩
      exact ⟨container, allocation, lists, same, last⟩
  · rw [Option.eq_none_iff_forall_ne_some]
    intro sample served
    obtain ⟨-, -, lists, same, last⟩ := sample?_refresh_eq_some_iff.mp served
    obtain ⟨entry, amounts, mem, read⟩ := LastReadable.exists_iff.mp ⟨sample.usage, last⟩
    exact unreadable lists same entry mem amounts read
  · rw [Option.eq_none_iff_forall_ne_some]
    intro sample served
    obtain ⟨-, -, lists, rfl, -⟩ := sample?_refresh_eq_some_iff.mp served
    obtain ⟨listed, -, same⟩ := List.mem_map.mp failed
    cases same

section Steps

variable {after : Provider} {begun ended : σ} {targets : List Target}
  {result : Except ListingError (List Target)} {messages : List Event}

/-- After a listing that succeeds, what was read before is gone. -/
theorem exists_attempts_of_list
    (ran : (provider.list exchange).run begun = ((after, .ok targets, messages), ended)) :
    ∃ attempts, provider.Brings exchange begun targets attempts ∧
      after = provider.refresh (gather attempts) ∧
      ∀ target, IsFreshAnswer provider.scopes attempts target (after.sample? target) := by
  rcases list_cases ran with ⟨error, failed⟩ |
    ⟨pods, middle, metrics, podsRun, metricsRun, rfl, listed⟩
  · cases failed
  · cases listed
    rcases attempted : (Listing.metricsAttempts exchange provider.scopes).run middle with
      ⟨attempts, final⟩
    rw [Listing.metrics_eq_gather, StateT.run_map, attempted] at metricsRun
    cases metricsRun
    exact ⟨attempts, ⟨pods, middle, _, podsRun, rfl, attempted⟩, rfl,
      isFreshAnswer_of_attempts attempted⟩

/-- A listing that fails changes nothing. -/
theorem eq_of_list_error {error : ListingError}
    (ran : (provider.list exchange).run begun = ((after, .error error, messages), ended)) :
    after = provider := by
  rcases podsRun : (Listing.pods exchange provider.scopes).run begun with ⟨failed | pods, middle⟩
  · cases ran.symm.trans (run_list_of_error podsRun)
    rfl
  · rcases metricsRun : (Listing.metrics exchange provider.scopes).run middle with ⟨metrics, final⟩
    cases ran.symm.trans (run_list_of_ok podsRun metricsRun)

theorem selector_of_list
    (ran : (provider.list exchange).run begun = ((after, result, messages), ended)) :
    after.selector = provider.selector := by
  cases result with
  | error error => rw [eq_of_list_error ran]
  | ok targets =>
      obtain ⟨attempts, -, rfl, -⟩ := exists_attempts_of_list ran
      rfl

end Steps

namespace History

theorem selector_eq (history : History exchange provider events last) :
    last.selector = provider.selector := by
  induction history with
  | nil => rfl
  | listed ran further ih => exact ih.trans (selector_of_list ran)
  | sampled further ih => exact ih

/-- A history of some events and then others passes through a provider in between. -/
theorem exists_of_append {later : List (ProviderEvent σ)}
    (history : History exchange provider (events ++ later) last) :
    ∃ middle, History exchange provider events middle ∧ History exchange middle later last := by
  induction events generalizing provider with
  | nil => exact ⟨provider, .nil, history⟩
  | cons event rest ih =>
      cases history with
      | listed ran further =>
          obtain ⟨middle, first, second⟩ := ih further
          exact ⟨middle, .listed ran first, second⟩
      | sampled further =>
          obtain ⟨middle, first, second⟩ := ih further
          exact ⟨middle, .sampled first, second⟩

theorem iff_replay? :
    History exchange provider events last ↔ replay? exchange provider events = some last := by
  constructor
  · intro history
    induction history with
    | nil => rfl
    | listed ran further ih => simpa [replay?, ran] using ih
    | sampled further ih => simpa [replay?] using ih
  · induction events generalizing provider with
    | nil =>
        intro same
        cases same
        exact .nil
    | cons event rest ih =>
        intro replayed
        cases event with
        | listed begun result =>
            rw [replay?] at replayed
            split at replayed
            rename_i after listed messages ended ran
            split at replayed
            · rename_i same
              exact .listed (same ▸ ran) (ih replayed)
            · contradiction
        | sampled target answer =>
            rw [replay?] at replayed
            split at replayed
            · rename_i same
              exact same ▸ .sampled (ih replayed)
            · contradiction

/-- As long as no listing succeeds, nothing changes. -/
theorem eq_of_no_listing (history : History exchange provider events last)
    (unlisted : ∀ begun targets, .listed begun (.ok targets) ∉ events) : last = provider := by
  induction history with
  | nil => rfl
  | @listed provider after last begun ended result messages rest ran further ih =>
      cases result with
      | ok targets => exact absurd List.mem_cons_self (unlisted begun targets)
      | error error =>
          rw [ih fun other targets mem => unlisted other targets (List.mem_cons_of_mem _ mem),
            eq_of_list_error ran]
  | sampled further ih =>
      exact ih fun other targets mem => unlisted other targets (List.mem_cons_of_mem _ mem)

end History

/-- Every answer comes from the metrics of the last listing that succeeded: the sample of a target
has the usage of the last entry for its container that can be read, and there is none without such
an entry or when the metrics of some scope could not be listed.  Listings that failed since and what
was read earlier do not matter.  What a cycle observes comes from the listing of the cycle itself,
whatever has happened to the provider before. -/
theorem answers_are_fresh (history : History exchange provider events last) :
    (∀ earlier begun targets between target answer later,
      events = earlier ++ .listed begun (.ok targets) ::
        (between ++ .sampled target answer :: later) →
      (∀ other others, .listed other (.ok others) ∉ between) →
      ∃ attempts, provider.Brings exchange begun targets attempts ∧
        IsFreshAnswer provider.scopes attempts target answer) ∧
    ∀ begun ended after result messages readings,
      (last.list exchange).run begun = ((after, result, messages), ended) →
      after.observe result = .ok readings →
      ∃ targets attempts, result = .ok targets ∧
        provider.Brings exchange begun targets attempts ∧
        ∀ reading ∈ readings,
          IsFreshAnswer provider.scopes attempts reading.1 reading.2.sample? := by
  constructor
  · rintro earlier begun targets between target answer later rfl unlisted
    obtain ⟨current, before, history⟩ := history.exists_of_append
    have same := before.selector_eq
    cases history with
    | listed ran further =>
        obtain ⟨attempts, brings, -, fresh⟩ := exists_attempts_of_list ran
        obtain ⟨asked, since, asking⟩ := further.exists_of_append
        obtain rfl := since.eq_of_no_listing unlisted
        cases asking
        exact ⟨attempts, brings_congr same ▸ brings, scopes_congr same ▸ fresh target⟩
  · intro begun ended after result messages readings ran observed
    have same := history.selector_eq
    cases result with
    | error error => cases observed
    | ok targets =>
        obtain ⟨attempts, brings, -, fresh⟩ := exists_attempts_of_list ran
        refine ⟨targets, attempts, rfl, brings_congr same ▸ brings, fun reading mem => ?_⟩
        rw [(mem_and_sample?_of_mem_observe observed mem).2]
        exact scopes_congr same ▸ fresh reading.1

/-- The metrics of the pod, with an entry for each of some texts of its memory. -/
def memoryText (texts : List String) : String :=
  "\x7b\"metadata\":\x7b\x7d,\"items\":[\x7b\"metadata\":\x7b\"namespace\":\"default\"," ++
    "\"name\":\"web\"\x7d,\"containers\":[" ++
    ",".intercalate (texts.map fun text =>
      "\x7b\"name\":\"app\",\"usage\":\x7b\"cpu\":\"5m\",\"memory\":\"" ++ text ++ "\"\x7d\x7d") ++
    "]\x7d]\x7d"

/-- The state of a cluster with two namespaces that can be reached. -/
structure Shops where
  defaultPods : String
  defaultMetrics : String
  shopMetrics : String

/-- Its replies, while it can be reached.  There are never any pods in the second namespace. -/
def changingCluster (request : ApiRequest) : StateM (Option Shops) ApiReply := do
  match ← get with
  | none => return .broken "connection refused"
  | some shops =>
      return .answer 200
        (if request.path = "/api/v1/namespaces/default/pods" then shops.defaultPods
        else if request.path = "/api/v1/namespaces/shop/pods" then emptyText
        else if request.path = "/apis/metrics.k8s.io/v1beta1/namespaces/default/pods" then
          shops.defaultMetrics
        else shops.shopMetrics)

/-- Of two entries for the container the second cannot be read. -/
def repeatedUsage : Option Shops :=
  some ⟨onePodText "default", memoryText ["7M", "some"], emptyText⟩

/-- The sample of the container with some bytes of memory in use. -/
def sampleUsing (bytes : Nat) : Sample :=
  ⟨(oneTarget "default").container, ⟨5, bytes⟩, (oneTarget "default").allocation⟩

/-- After a listing the cluster cannot be reached, and in the end the metrics of the other namespace
cannot be read. -/
def changingEvents : List (ProviderEvent (Option Shops)) :=
  [.listed repeatedUsage (.ok [oneTarget "default"]),
    .listed none (.error ⟨"pods", .within "default", .broken "connection refused"⟩),
    .sampled (oneTarget "default") (some (sampleUsing 7000000)),
    .listed (some ⟨emptyText, memoryText [], ""⟩) (.ok []),
    .sampled (oneTarget "default") none]

/-- The sample after the failed listing is from the last entry of the first listing that can be
read; the listing after it leaves nothing of this. -/
theorem answers_are_fresh_changing :
    let provider := namedProvider ["default", "shop"] []
    (∃ last, provider.History changingCluster changingEvents last) ∧
      ∃ attempts, provider.Brings changingCluster repeatedUsage [oneTarget "default"] attempts ∧
        (sampleUsing 7000000).IsFrom provider.scopes attempts (oneTarget "default") := by
  intro provider
  let last := (replay? changingCluster provider changingEvents).get (by decide +kernel)
  have history : provider.History changingCluster changingEvents last :=
    History.iff_replay?.mpr (Option.some_get _).symm
  let between := (changingEvents.drop 1).take 1
  have unlisted : ∀ other others, .listed other (.ok others) ∉ between := by
    simp [between, changingEvents]
  obtain ⟨attempts, brings, fresh⟩ :=
    (answers_are_fresh history).1 [] _ _ between _ _ (changingEvents.drop 3) rfl unlisted
  exact ⟨⟨last, history⟩, attempts, brings, (fresh.served _).mp rfl⟩

end Provider

end PodSizing
