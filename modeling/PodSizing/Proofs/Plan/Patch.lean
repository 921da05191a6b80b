import PodSizing.Proofs.Decision.Steady

/-!
# What a patch writes

Where the request does not exceed the limit, it does not after the patch of a change either: the
target becomes the limit, what equals it follows it, and what lies below stays where it is unless
the limit comes down to it.  A value that is not set stays so, and the flag of a patch says whether
one of its values lies below what was configured.
-/

namespace PodSizing

/-- No request lies above a limit that is set. -/
def Allocation.IsOrdered (allocation : Allocation) : Prop :=
  allocation.request ≤ allocation.limit ∨ allocation.limit = 0

namespace Patch

/-- A value of the patch lies below the one that it replaces. -/
def Lowers (patch : Patch) (allocation : Allocation) : Prop :=
  (∃ request, patch.request = some request ∧ request < allocation.request) ∨
    ∃ limit, patch.limit = some limit ∧ limit < allocation.limit

/-- What the patch of a change makes of an allocation. -/
structure Realizes (patch : Patch) (decision : Decision) (allocation : Allocation) : Prop where
  limited : 0 < allocation.limit →
    (patch.write allocation).limit = decision.target ∧
      (patch.write allocation).request ≤ (patch.write allocation).limit
  /-- Where the request equals the limit it does so afterwards. -/
  guaranteed : 0 < allocation.limit → allocation.request = allocation.limit →
    (patch.write allocation).request = (patch.write allocation).limit
  /-- A limit that is raised leaves a lower request alone. -/
  burstable : allocation.request < allocation.limit → decision.verdict = .scaleUp →
    patch.request = none ∧ (patch.write allocation).request = allocation.request ∧
      (patch.write allocation).request < (patch.write allocation).limit
  unlimited : allocation.limit = 0 →
    patch.limit = none ∧ patch.write allocation = ⟨decision.target, 0⟩
  unrequested : 0 < allocation.limit → allocation.request = 0 →
    patch.request = none ∧ (patch.write allocation).request = 0
  decrease : patch.decrease = true ↔ patch.Lowers allocation

variable {dimension : Dimension} {decision : Decision} {allocation : Allocation}

/-! ### The two kinds of patches -/

theorem ofDecision_of_limited (limited : 0 < allocation.limit) :
    ofDecision dimension decision allocation =
      ⟨dimension,
        if allocation.request = allocation.limit ∨ decision.target < allocation.request then
          some decision.target
        else none,
        some decision.target, decision.isDecrease⟩ := by
  rw [ofDecision, if_pos limited]

theorem ofDecision_of_unlimited (unlimited : allocation.limit = 0) :
    ofDecision dimension decision allocation =
      ⟨dimension, some decision.target, none, decision.isDecrease⟩ := by
  rw [ofDecision, if_neg (by omega)]

/-- The request after a patch of the limit. -/
theorem request_write_of_limited (limited : 0 < allocation.limit) :
    ((ofDecision dimension decision allocation).write allocation).request =
      if allocation.request = allocation.limit ∨ decision.target < allocation.request then
        decision.target
      else allocation.request := by
  rw [ofDecision_of_limited limited, write]
  split <;> rfl

theorem limit_write_of_limited (limited : 0 < allocation.limit) :
    ((ofDecision dimension decision allocation).write allocation).limit = decision.target := by
  rw [ofDecision_of_limited limited, write, Option.getD_some]

/-- The patch of a decision lowers something exactly when the target lies below what was
configured. -/
theorem isDecrease_iff_lowers (ordered : allocation.IsOrdered)
    (current : decision.current = allocation.baseline) :
    decision.isDecrease = true ↔ (ofDecision dimension decision allocation).Lowers allocation := by
  rw [Decision.isDecrease, decide_eq_true_iff, current]
  by_cases limited : 0 < allocation.limit
  · have request_le : allocation.request ≤ allocation.limit :=
      ordered.resolve_right (Nat.ne_of_gt limited)
    rw [ofDecision_of_limited limited, Lowers, Allocation.baseline, if_pos limited]
    constructor
    · intro below
      exact .inr ⟨decision.target, rfl, below⟩
    · rintro (⟨request, written, below⟩ | ⟨limit, written, below⟩)
      · have isTarget := (Option.ite_none_right_eq_some.mp written).2
        cases isTarget
        omega
      · cases written
        exact below
  · have unlimited : allocation.limit = 0 := by omega
    rw [ofDecision_of_unlimited unlimited, Lowers, Allocation.baseline, if_neg limited]
    constructor
    · intro below
      exact .inl ⟨decision.target, rfl, below⟩
    · rintro (⟨request, written, below⟩ | ⟨limit, written, below⟩)
      · cases written
        exact below
      · cases written

/-- The patch of a change realizes it. -/
theorem realizes_ofDecision (ordered : allocation.IsOrdered)
    (current : decision.current = allocation.baseline)
    (agrees : decision.verdict.agrees decision.current decision.target = true) :
    (ofDecision dimension decision allocation).Realizes decision allocation where
  limited limited := by
    rw [limit_write_of_limited limited, request_write_of_limited limited]
    constructor
    · rfl
    · split <;> omega
  guaranteed limited same := by
    rw [limit_write_of_limited limited, request_write_of_limited limited, if_pos (.inl same)]
  burstable below up := by
    have limited : 0 < allocation.limit := Nat.zero_lt_of_lt below
    have grows : allocation.limit < decision.target := by
      rw [up, current, Allocation.baseline, if_pos limited] at agrees
      exact of_decide_eq_true agrees
    have stays : ¬ (allocation.request = allocation.limit ∨
        decision.target < allocation.request) := by omega
    rw [limit_write_of_limited limited, request_write_of_limited limited, if_neg stays,
      ofDecision_of_limited limited, if_neg stays]
    exact ⟨rfl, rfl, Nat.lt_trans below grows⟩
  unlimited unlimited := by
    rw [ofDecision_of_unlimited unlimited, write, unlimited]
    exact ⟨rfl, rfl⟩
  unrequested limited nothing := by
    have stays : ¬ (allocation.request = allocation.limit ∨
        decision.target < allocation.request) := by omega
    rw [request_write_of_limited limited, if_neg stays, ofDecision_of_limited limited,
      if_neg stays]
    exact ⟨rfl, nothing⟩
  decrease := by
    rw [← isDecrease_iff_lowers ordered current]
    simp only [ofDecision]
    split <;> rfl

end Patch

namespace Plan

/-- The plan changes the dimension from what is configured, where no request lies above its
limit. -/
structure Moves (plan : Plan) (dimension : Dimension) : Prop where
  ordered : (plan.allocation.get dimension).IsOrdered
  current : (plan.decisions.get dimension).current = (plan.allocation.get dimension).baseline
  agrees : (plan.decisions.get dimension).verdict.agrees (plan.decisions.get dimension).current
    (plan.decisions.get dimension).target = true

variable {plan : Plan} {dimension : Dimension}

theorem Moves.realizes (moves : plan.Moves dimension) :
    (plan.patch dimension).Realizes (plan.decisions.get dimension)
      (plan.allocation.get dimension) :=
  Patch.realizes_ofDecision moves.ordered moves.current moves.agrees

/-- A change of a plan that is made for a sample is a move. -/
theorem moves_of_assess? {policy : Policy} {cooldowns : CooldownTable} {now : Instant}
    {sample : Sample} (assessed : policy.assess? cooldowns now sample = some plan)
    (changing : dimension ∈ plan.changing)
    (ordered : (plan.allocation.get dimension).IsOrdered) : plan.Moves dimension := by
  obtain ⟨-, allocation, decided⟩ := Policy.assess?_eq_some_iff.mp assessed
  have isChange := mem_changing.mp changing
  have decides := Policy.decide?_eq_some_iff.mp
    (Policy.decide?_of_decideResting? (decided dimension) isChange)
  rw [← allocation] at decides
  obtain ⟨current, agrees⟩ := decides.agrees_of_isChange isChange
  exact ⟨ordered, current, agrees⟩

/-- The patch of a dimension that a plan moves makes the target the limit, or the request where no
limit is set; it keeps the request at the limit or below and sets nothing that was not set, and it
is flagged as a decrease exactly when it lowers a value.  A request for some dimensions has these
patches and no other ones.  The changes of a plan that is made for a sample are such moves. -/
theorem patches_realize_moves (plan : Plan) :
    (∀ dimension, plan.Moves dimension →
      (plan.patch dimension).Realizes (plan.decisions.get dimension)
        (plan.allocation.get dimension)) ∧
    (∀ dimensions, (plan.request dimensions).dimensions = dimensions ∧
      ∀ patch ∈ (plan.request dimensions).patches, plan.Moves patch.dimension →
        patch.Realizes (plan.decisions.get patch.dimension)
          (plan.allocation.get patch.dimension)) ∧
    ∀ (policy : Policy) cooldowns now sample,
      policy.assess? cooldowns now sample = some plan →
        ∀ dimension ∈ plan.changing, (plan.allocation.get dimension).IsOrdered →
          plan.Moves dimension := by
  refine ⟨fun dimension moves => moves.realizes, ?_, ?_⟩
  · intro dimensions
    refine ⟨ResizeRequest.dimensions_request plan dimensions, ?_⟩
    intro patch mem moves
    obtain ⟨dimension, -, rfl⟩ := List.mem_map.mp mem
    rw [dimension_patch] at moves ⊢
    exact moves.realizes
  · intro policy cooldowns now sample assessed dimension changing ordered
    exact moves_of_assess? assessed changing ordered

end Plan

/-- A container whose CPU request equals the limit and is hardly used, and whose memory, with a
request far below the limit, is nearly full. -/
def lopsidedSample : Sample :=
  ⟨⟨⟨"default", "web"⟩, "app"⟩, ⟨100, 480 * 1024 * 1024⟩,
    ⟨⟨1000, 1000⟩, ⟨128 * 1024 * 1024, 512 * 1024 * 1024⟩⟩⟩

/-- The CPU request comes down with its limit.  The memory request stays where it is, and a call
for the memory alone is no decrease. -/
theorem Plan.patches_realize_moves_down_and_up :
    ∃ plan, Policy.default.assess? .empty .last lopsidedSample = some plan ∧
      ((plan.patch .cpu).write ⟨1000, 1000⟩).request =
        ((plan.patch .cpu).write ⟨1000, 1000⟩).limit ∧
      (plan.patch .cpu).Lowers ⟨1000, 1000⟩ ∧
      ∃ patch ∈ (plan.request [.memory]).patches, patch.request = none ∧
        ¬ patch.Lowers ⟨128 * 1024 * 1024, 512 * 1024 * 1024⟩ := by
  let plan := (Policy.default.assess? .empty .last lopsidedSample).get (by decide +kernel)
  have assessed : Policy.default.assess? .empty .last lopsidedSample = some plan :=
    (Option.some_get _).symm
  have allocation : plan.allocation = lopsidedSample.allocation := by decide +kernel
  obtain ⟨realizes, asked, moves⟩ := plan.patches_realize_moves
  have moved (dimension : Dimension) (changing : dimension ∈ plan.changing) :
      plan.Moves dimension := by
    apply moves _ _ _ _ assessed dimension changing
    rw [allocation]
    exact .inl (by cases dimension <;> decide)
  have cpu := realizes .cpu (moved .cpu (by decide +kernel))
  have memory := (asked [.memory]).2 (plan.patch .memory) List.mem_cons_self
    (by rw [dimension_patch]; exact moved .memory (by decide +kernel))
  rw [dimension_patch, allocation] at memory
  rw [allocation] at cpu
  refine ⟨plan, assessed, cpu.guaranteed (by decide) rfl, cpu.decrease.mp (by decide +kernel),
    plan.patch .memory, List.mem_cons_self, ?_, ?_⟩
  · exact (memory.burstable (by decide) (by decide +kernel)).1
  · exact mt memory.decrease.mpr (by decide +kernel)

end PodSizing
