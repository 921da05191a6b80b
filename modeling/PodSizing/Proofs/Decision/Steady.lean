import PodSizing.Plan.Patch
import PodSizing.Proofs.Decision

/-!
# Steady usage

While the usage of a dimension stays the same, its step target does not move.  A change that was
applied has made this target the baseline, and what stands at its step target is kept, so the
dimension is left alone from then on.
-/

namespace PodSizing

/-- A time at which a dimension is looked at. -/
structure Look where
  /-- What is known of earlier changes. -/
  cooldowns : CooldownTable
  now : Instant
  /-- What is decided is also applied. -/
  applies : Bool

/-- The sample after a decision about a dimension was applied. -/
def Sample.resize (sample : Sample) (dimension : Dimension) (decision : Decision) : Sample :=
  let allocation := sample.allocation.get dimension
  { sample with
    allocation := sample.allocation.set dimension
      ((Patch.ofDecision dimension decision allocation).write allocation) }

@[simp]
theorem Sample.usage_resize (sample : Sample) (dimension : Dimension) (decision : Decision) :
    (sample.resize dimension decision).usage = sample.usage := rfl

theorem Sample.baseline_resize (sample : Sample) (dimension : Dimension) (decision : Decision) :
    ((sample.resize dimension decision).allocation.get dimension).baseline = decision.target := by
  simp only [resize, PerDimension.get_set_self]
  exact Patch.baseline_write_ofDecision dimension decision _

namespace Policy

/-- The decisions about a dimension at one look after the other while the usage stays the same. -/
def decideSteadily? (policy : Policy) (dimension : Dimension) :
    Sample → List Look → Option (List Decision)
  | _, [] => some []
  | sample, look :: rest => do
      let decision ← policy.decideResting? look.cooldowns look.now sample dimension
      let next :=
        if decision.isChange && look.applies then sample.resize dimension decision else sample
      let decisions ← decideSteadily? policy dimension next rest
      some (decision :: decisions)

variable {policy : Policy} {dimension : Dimension} {sample : Sample} {look : Look}
  {decision : Decision} {decisions : List Decision}

theorem decideSteadily?_cons_eq_some_iff {looks : List Look} :
    policy.decideSteadily? dimension sample (look :: looks) = some decisions ↔
      ∃ decision others,
        policy.decideResting? look.cooldowns look.now sample dimension = some decision ∧
        policy.decideSteadily? dimension
          (if decision.isChange && look.applies then sample.resize dimension decision else sample)
          looks = some others ∧
        decisions = decision :: others := by
  simp only [decideSteadily?, Option.bind_eq_bind, Option.bind_eq_some_iff, Option.some.injEq]
  constructor
  · rintro ⟨decision, decided, others, rest, rfl⟩
    exact ⟨decision, others, decided, rest, rfl⟩
  · rintro ⟨decision, others, decided, rest, rfl⟩
    exact ⟨decision, decided, others, rest, rfl⟩

/-- The dimension stands at the step target of its usage. -/
def IsSettled (policy : Policy) (sample : Sample) (dimension : Dimension) : Prop :=
  policy.stepTarget? dimension (sample.usage.get dimension) =
    some (sample.allocation.get dimension).baseline

/-- A dimension is settled after a change was applied. -/
theorem isSettled_resize
    (decided : policy.decide? dimension (sample.usage.get dimension)
      (sample.allocation.get dimension) = some decision)
    (changes : decision.isChange = true) :
    policy.IsSettled (sample.resize dimension decision) dimension := by
  rw [IsSettled, Sample.usage_resize, Sample.baseline_resize]
  exact (decide?_eq_some_iff.mp decided).step_of_isChange changes

/-- A settled dimension is kept, whatever is known of earlier changes. -/
theorem IsSettled.exists_decideResting? (settled : policy.IsSettled sample dimension)
    (cooldowns : CooldownTable) (now : Instant) :
    ∃ utilization, policy.decideResting? cooldowns now sample dimension =
      some (.keep dimension (sample.allocation.get dimension).baseline utilization) := by
  obtain ⟨utilization, kept⟩ := exists_decide?_eq_keep settled
  exact ⟨utilization, by simp [decideResting?, kept]⟩

/-- A settled dimension is kept at every look. -/
theorem IsSettled.eq_keep_of_mem (settled : policy.IsSettled sample dimension)
    {looks : List Look} (decided : policy.decideSteadily? dimension sample looks = some decisions) :
    ∀ decision ∈ decisions, ∃ utilization, decision =
      .keep dimension (sample.allocation.get dimension).baseline utilization := by
  induction looks generalizing decisions with
  | nil =>
      cases decided
      simp
  | cons look rest ih =>
      obtain ⟨first, others, now, later, rfl⟩ := decideSteadily?_cons_eq_some_iff.mp decided
      obtain ⟨utilization, kept⟩ := settled.exists_decideResting? look.cooldowns look.now
      obtain rfl : first = .keep dimension _ utilization := Option.some.inj (now.symm.trans kept)
      -- What is kept is not written, so the same sample is looked at next.
      simp only [Decision.isChange_keep, Bool.false_and] at later
      intro decision mem
      rcases List.mem_cons.mp mem with rfl | inRest
      · exact ⟨utilization, rfl⟩
      · exact ih later decision inRest

/-- With bounds that are not inverted there is a decision at every look. -/
theorem exists_decideSteadily? (ordered : (policy.bounds.get dimension).min ≤
      (policy.bounds.get dimension).max) (sample : Sample) (looks : List Look) :
    ∃ decisions, policy.decideSteadily? dimension sample looks = some decisions := by
  induction looks generalizing sample with
  | nil => exact ⟨[], rfl⟩
  | cons look rest ih =>
      obtain ⟨raw, decided⟩ := exists_decide? ordered (sample.usage.get dimension)
        (sample.allocation.get dimension)
      obtain ⟨decision, resting⟩ : ∃ decision,
          policy.decideResting? look.cooldowns look.now sample dimension = some decision :=
        ⟨_, by rw [decideResting?, decided, Option.map_some]⟩
      obtain ⟨others, later⟩ := ih
        (if decision.isChange && look.applies then sample.resize dimension decision else sample)
      exact ⟨decision :: others,
        decideSteadily?_cons_eq_some_iff.mpr ⟨decision, others, resting, later, rfl⟩⟩

/-- There is one decision for each look. -/
theorem length_of_decideSteadily? {looks : List Look}
    (decided : policy.decideSteadily? dimension sample looks = some decisions) :
    decisions.length = looks.length := by
  induction looks generalizing sample decisions with
  | nil =>
      cases decided
      rfl
  | cons look rest ih =>
      obtain ⟨first, others, -, later, rfl⟩ := decideSteadily?_cons_eq_some_iff.mp decided
      rw [List.length_cons, List.length_cons, ih later]

/-- After the look at which a change was applied the dimension is kept at its target. -/
private theorem eq_keep_of_applied {looks : List Look}
    (decided : policy.decideSteadily? dimension sample looks = some decisions)
    {first second : Nat} {later : Decision} (lt : first < second)
    (looked : looks[first]? = some look) (here : decisions[first]? = some decision)
    (changes : decision.isChange = true) (applies : look.applies = true)
    (there : decisions[second]? = some later) :
    ∃ utilization, later = .keep dimension decision.target utilization := by
  induction looks generalizing sample decisions first second with
  | nil => simp at looked
  | cons head rest ih =>
      obtain ⟨now, others, nowDecided, restDecided, rfl⟩ :=
        decideSteadily?_cons_eq_some_iff.mp decided
      obtain ⟨index, rfl⟩ := Nat.exists_eq_add_one_of_ne_zero (Nat.ne_zero_of_lt lt)
      rw [List.getElem?_cons_succ] at there
      cases first with
      | succ first =>
          rw [List.getElem?_cons_succ] at looked here
          exact ih restDecided (Nat.lt_of_succ_lt_succ lt) looked here there
      | zero =>
          rw [List.getElem?_cons_zero] at looked here
          cases looked
          cases here
          rw [changes, applies, Bool.and_self, if_pos rfl] at restDecided
          have settled := isSettled_resize (decide?_of_decideResting? nowDecided changes) changes
          have kept := settled.eq_keep_of_mem restDecided later (List.mem_of_getElem? there)
          rwa [Sample.baseline_resize] at kept

/-- Writing the patch of a change makes its target the baseline, and at the same usage this is
kept.  So, in a run of looks at a steady usage, a change that was applied is the last one, whatever
the thresholds, the multiplier and what is known of earlier changes. -/
theorem steady_usage_settles (ordered : (policy.bounds.get dimension).min ≤
      (policy.bounds.get dimension).max) :
    (∀ (plan : Plan) (usage : Nat),
      let allocation := plan.allocation.get dimension
      let decision := plan.decisions.get dimension
      policy.decide? dimension usage allocation = some decision → decision.isChange = true →
      let written := (plan.patch dimension).write allocation
      written.baseline = decision.target ∧
        ∃ utilization, policy.decide? dimension usage written =
          some (.keep dimension decision.target utilization)) ∧
    (∀ (sample : Sample) (looks : List Look),
      ∃ decisions, policy.decideSteadily? dimension sample looks = some decisions ∧
        decisions.length = looks.length ∧
        ∀ (first second : Nat) (look : Look) (decision later : Decision), first < second →
          looks[first]? = some look → decisions[first]? = some decision →
          decision.isChange = true → look.applies = true → decisions[second]? = some later →
          ∃ utilization, later = .keep dimension decision.target utilization) := by
  constructor
  · intro plan usage allocation decision decided changes written
    have baseline : written.baseline = decision.target :=
      Patch.baseline_write_ofDecision dimension decision allocation
    have step := (decide?_eq_some_iff.mp decided).step_of_isChange changes
    rw [← baseline] at step ⊢
    exact ⟨rfl, exists_decide?_eq_keep step⟩
  · intro sample looks
    obtain ⟨decisions, decided⟩ := exists_decideSteadily? ordered sample looks
    refine ⟨decisions, decided, length_of_decideSteadily? decided, ?_⟩
    intro first second look decision later lt looked here changes applies there
    exact eq_keep_of_applied decided lt looked here changes applies there

end Policy

/-- A container that uses far more memory than the policy below allows it to have. -/
def crampedSample : Sample :=
  ⟨⟨⟨"default", "web"⟩, "app"⟩, ⟨50, 900⟩, ⟨⟨100, 100⟩, ⟨200, 400⟩⟩⟩

/-- The default policy with little memory and without rest. -/
def tightPolicy : Policy :=
  { Policy.default with bounds := ⟨⟨10, 4000⟩, ⟨100, 500⟩⟩, cooldownSeconds := 0 }

/-- What is decided at the first look is not applied; later decisions are. -/
def threeLooks : List Look :=
  [⟨.empty, default, false⟩, ⟨.empty, default, true⟩, ⟨.empty, default, true⟩]

/-- At the third look the usage still lies above the upper threshold. -/
theorem Policy.steady_usage_settles_at_maximum :
    ∃ decisions utilization,
      tightPolicy.decideSteadily? .memory crampedSample threeLooks = some decisions ∧
      decisions.map Decision.isChange = [true, true, false] ∧
      tightPolicy.verdict 900 500 = .scaleUp ∧
      decisions[2]? = some (.keep .memory 500 utilization) := by
  let decisions := (tightPolicy.decideSteadily? .memory crampedSample threeLooks).get
    (by decide +kernel)
  have decided : tightPolicy.decideSteadily? .memory crampedSample threeLooks = some decisions :=
    (Option.some_get _).symm
  let second := decisions[1]?.get (by decide +kernel)
  let third := decisions[2]?.get (by decide +kernel)
  have here : decisions[1]? = some second := (Option.some_get _).symm
  have there : decisions[2]? = some third := (Option.some_get _).symm
  have changes : second.isChange = true := by decide +kernel
  have target : second.target = 500 := by decide +kernel
  have ordered : (tightPolicy.bounds.get .memory).min ≤ (tightPolicy.bounds.get .memory).max := by
    decide
  obtain ⟨-, runs⟩ := steady_usage_settles ordered
  obtain ⟨same, sameDecided, -, settles⟩ := runs crampedSample threeLooks
  have eq : same = decisions := Option.some.inj (sameDecided.symm.trans decided)
  rw [eq] at settles
  obtain ⟨utilization, kept⟩ := settles 1 2 _ second third (by decide) rfl here changes rfl there
  rw [target] at kept
  exact ⟨decisions, utilization, decided, by decide +kernel, by decide +kernel, kept ▸ there⟩

end PodSizing
