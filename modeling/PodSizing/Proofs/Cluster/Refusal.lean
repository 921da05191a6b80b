import PodSizing.Cluster.Refusal
import PodSizing.Proofs.Executor.Application
import PodSizing.Proofs.Text.Phrase

/-!
# What a refusal means for a plan

A refusal of the API server is read twice: the answer is held against the patches of the request,
and what comes out of this against the decisions of the plan.  Both readings see the same
dimensions lowered, so whatever the answer says, the dimensions that it is taken to refuse are the
ones that the plan skips, and the others are tried again.
-/

namespace PodSizing

namespace Refusal

/-- The answer has the code and the words of a refusal to lower a value in place. -/
def IsSaid (code : Nat) (message : String) : Prop :=
  (code = 403 ∨ code = 422) ∧ ∃ phrase ∈ decreasePhrases, Text.Says message phrase

theorem isPlain_of_mem_decreasePhrases :
    ∀ phrase ∈ decreasePhrases, Text.IsPlain phrase.toList := by
  decide +kernel

theorem isPlain_name (dimension : Dimension) : Text.IsPlain dimension.name.toList := by
  cases dimension <;> decide +kernel

theorem mentions_name_iff (message : String) (dimension : Dimension) :
    Text.mentions message dimension.name = true ↔ Text.Says message dimension.name :=
  Text.mentions_iff_says (isPlain_name dimension) message

theorem isOfDecrease_iff {code : Nat} {message : String} :
    isOfDecrease code message = true ↔ IsSaid code message := by
  rw [isOfDecrease, Bool.and_eq_true, Bool.or_eq_true, beq_iff_eq, beq_iff_eq, List.any_eq_true,
    IsSaid]
  apply and_congr_right'
  apply exists_congr
  intro phrase
  apply and_congr_right
  intro mem
  exact Text.mentions_iff_says (isPlain_of_mem_decreasePhrases phrase mem) message

end Refusal

namespace RuntimeError

variable {code : Nat} {message : String} {request : ResizeRequest}

/-- An answer is read as a refusal when it is one of lowering and the request lowers something. -/
private theorem isRefusal_iff :
    (Refusal.isOfDecrease code message && !request.decreasing.isEmpty) = true ↔
      Refusal.IsSaid code message ∧ request.decreasing ≠ [] := by
  rw [Bool.and_eq_true, Refusal.isOfDecrease_iff, Bool.not_eq_true', List.isEmpty_eq_false_iff]

theorem ofAnswer_of_refusal (isSaid : Refusal.IsSaid code message)
    (lowers : request.decreasing ≠ []) :
    ofAnswer code message request =
      .rejected (Refusal.refusedDimensions message request) message :=
  if_pos (isRefusal_iff.mpr ⟨isSaid, lowers⟩)

theorem ofAnswer_of_other
    (other : ¬ (Refusal.IsSaid code message ∧ request.decreasing ≠ [])) :
    ofAnswer code message request = .failed (message ++ " (" ++ toString code ++ ")") :=
  if_neg (mt isRefusal_iff.mp other)

end RuntimeError

namespace Plan

variable {plan : Plan} {dimension : Dimension} {dimensions rejected : List Dimension}
  {message : String}

/-- The target of the plan lies below what is configured. -/
def Lowers (plan : Plan) (dimension : Dimension) : Prop :=
  (plan.decisions.get dimension).target < (plan.decisions.get dimension).current

instance (plan : Plan) : DecidablePred plan.Lowers :=
  fun _ => Nat.decLt _ _

/-- The plan lowers the dimension, and the message names it. -/
def LowersNamed (plan : Plan) (message : String) (dimension : Dimension) : Prop :=
  plan.Lowers dimension ∧ Text.Says message dimension.name

instance (plan : Plan) (message : String) : DecidablePred (plan.LowersNamed message) :=
  fun dimension =>
    inferInstanceAs (Decidable (plan.Lowers dimension ∧ Text.Says message dimension.name))

/-- The dimensions that a request for a plan lowers are the ones that the plan lowers. -/
theorem decreasing_request_eq (plan : Plan) (dimensions : List Dimension) :
    (plan.request dimensions).decreasing = dimensions.filter plan.Lowers :=
  ResizeRequest.decreasing_request plan dimensions

private theorem filter_ne_nil_iff {P : Dimension → Prop} [DecidablePred P] :
    (dimensions.filter fun dimension => P dimension) ≠ [] ↔
      ∃ dimension ∈ dimensions, P dimension := by
  simp [List.filter_eq_nil_iff]

theorem decreasing_request_ne_nil_iff :
    (plan.request dimensions).decreasing ≠ [] ↔
      ∃ dimension ∈ dimensions, plan.Lowers dimension := by
  rw [decreasing_request_eq, filter_ne_nil_iff]

/-! ### The reading against the plan -/

/-- The rejected dimensions of an attempt that the plan lowers. -/
def refusedAmong (plan : Plan) (attempted rejected : List Dimension) : List Dimension :=
  attempted.filter fun dimension =>
    rejected.contains dimension && (plan.decisions.get dimension).isDecrease

/-- What a rejection of an attempt at some dimensions of a plan leads to: the statuses that are
settled by it, and the dimensions that are tried once more. -/
def afterRejection (plan : Plan) (attempted rejected : List Dimension) (reason : String) :
    Statuses × List Dimension :=
  let refused := plan.refusedAmong attempted rejected
  if refused.isEmpty then (Statuses.unchanged.setAll attempted (.failed reason), [])
  else
    (Statuses.unchanged.setAll refused (.skipped .decreaseNotPermitted),
      attempted.filter fun dimension => !refused.contains dimension)

/-- The attempt that can be rejected is the one at all that the plan changes. -/
theorem proceed_rejected (plan : Plan) (rejected : List Dimension) (reason : String) :
    plan.proceed .whole (.error (.rejected rejected reason)) =
      if (plan.afterRejection plan.changing rejected reason).2.isEmpty then
        .finished (plan.afterRejection plan.changing rejected reason).1
      else .calling (.reduced (plan.refusedAmong plan.changing rejected)) := by
  have same : plan.refused rejected = plan.refusedAmong plan.changing rejected := rfl
  rw [proceed, afterRejection, same]
  by_cases nothing : (plan.refusedAmong plan.changing rejected).isEmpty
  · simp only [if_pos nothing]
    rfl
  · simp only [if_neg nothing]
    rfl

/-- Where the rejected dimensions are dimensions of the attempt that the plan lowers, they are the
refused ones. -/
theorem refusedAmong_filter {picked : Dimension → Bool}
    (lowers : ∀ dimension, picked dimension = true → plan.Lowers dimension) :
    plan.refusedAmong dimensions (dimensions.filter picked) = dimensions.filter picked := by
  apply List.filter_congr
  intro dimension mem
  rw [Bool.eq_iff_iff, Bool.and_eq_true, List.contains_iff_mem, List.mem_filter]
  constructor
  · rintro ⟨⟨-, isPicked⟩, -⟩
    exact isPicked
  · intro isPicked
    exact ⟨⟨mem, isPicked⟩, decide_eq_true (lowers dimension isPicked)⟩

/-- A refusal of some dimensions of an attempt as the plan understands it. -/
structure IsRefusal (plan : Plan) (attempted : List Dimension) (message : String)
    (rejected : List Dimension) : Prop where
  nonempty : rejected ≠ []
  sublist : rejected.Sublist attempted
  lowers : ∀ dimension ∈ rejected, plan.Lowers dimension
  named : (∃ dimension ∈ attempted, plan.LowersNamed message dimension) →
    rejected = attempted.filter (plan.LowersNamed message)
  unnamed : (¬ ∃ dimension ∈ attempted, plan.LowersNamed message dimension) →
    rejected = attempted.filter plan.Lowers
  /-- The executor takes the same dimensions to be refused. -/
  refused : plan.refusedAmong attempted rejected = rejected

/-- Dimensions that are picked among those that the plan lowers are refused as they stand. -/
theorem isRefusal_filter {picked : Dimension → Bool}
    (lowers : ∀ dimension, picked dimension = true → plan.Lowers dimension)
    (nonempty : dimensions.filter picked ≠ [])
    (named : (∃ dimension ∈ dimensions, plan.LowersNamed message dimension) →
      dimensions.filter picked = dimensions.filter (plan.LowersNamed message))
    (unnamed : (¬ ∃ dimension ∈ dimensions, plan.LowersNamed message dimension) →
      dimensions.filter picked = dimensions.filter plan.Lowers) :
    plan.IsRefusal dimensions message (dimensions.filter picked) where
  nonempty := nonempty
  sublist := List.filter_sublist
  lowers dimension mem := lowers dimension (List.mem_filter.mp mem).2
  named := named
  unnamed := unnamed
  refused := refusedAmong_filter lowers

/-- No dimension fails for a refusal: the rejected ones are skipped, and the others are tried once
more. -/
theorem IsRefusal.afterRejection_eq (isRefusal : plan.IsRefusal dimensions message rejected)
    (reason : String) :
    plan.afterRejection dimensions rejected reason =
      (Statuses.unchanged.setAll rejected (.skipped .decreaseNotPermitted),
        dimensions.filter fun dimension => !rejected.contains dimension) := by
  rw [afterRejection, isRefusal.refused, if_neg (mt List.isEmpty_iff.mp isRefusal.nonempty)]

/-- The executor skips what is rejected, and calls again where anything else is to be changed. -/
theorem IsRefusal.proceed_eq (isRefusal : plan.IsRefusal plan.changing message rejected)
    (reason : String) :
    plan.proceed .whole (.error (.rejected rejected reason)) =
      if (plan.attempted (.reduced rejected)).isEmpty then
        .finished (Statuses.unchanged.setAll rejected (.skipped .decreaseNotPermitted))
      else .calling (.reduced rejected) := by
  rw [proceed_rejected, isRefusal.afterRejection_eq, isRefusal.refused]
  rfl

/-! ### The reading against the request -/

theorem named_request (plan : Plan) (dimensions : List Dimension) (message : String) :
    ((plan.request dimensions).decreasing.filter fun dimension =>
        Text.mentions message dimension.name) =
      dimensions.filter (plan.LowersNamed message) := by
  rw [decreasing_request_eq, List.filter_filter]
  apply List.filter_congr
  intro dimension _
  rw [Bool.eq_iff_iff, Bool.and_eq_true, decide_eq_true_iff, decide_eq_true_iff,
    Refusal.mentions_name_iff, LowersNamed, and_comm]

theorem refusedDimensions_of_named
    (named : ∃ dimension ∈ dimensions, plan.LowersNamed message dimension) :
    Refusal.refusedDimensions message (plan.request dimensions) =
      dimensions.filter (plan.LowersNamed message) := by
  have nonempty := filter_ne_nil_iff.mpr named
  rw [Refusal.refusedDimensions, named_request, if_neg (mt List.isEmpty_iff.mp nonempty)]

theorem refusedDimensions_of_unnamed
    (unnamed : ¬ ∃ dimension ∈ dimensions, plan.LowersNamed message dimension) :
    Refusal.refusedDimensions message (plan.request dimensions) =
      dimensions.filter plan.Lowers := by
  have empty := Classical.not_not.mp (mt filter_ne_nil_iff.mp unnamed)
  rw [Refusal.refusedDimensions, named_request, if_pos (List.isEmpty_iff.mpr empty),
    decreasing_request_eq]

/-- The dimensions that an answer refuses in a request for a plan that lowers one of them. -/
theorem isRefusal_refusedDimensions (lowered : ∃ dimension ∈ dimensions, plan.Lowers dimension)
    (message : String) :
    plan.IsRefusal dimensions message
      (Refusal.refusedDimensions message (plan.request dimensions)) := by
  by_cases named : ∃ dimension ∈ dimensions, plan.LowersNamed message dimension
  · rw [refusedDimensions_of_named named]
    apply isRefusal_filter
    case nonempty => exact filter_ne_nil_iff.mpr named
    case lowers => exact fun dimension picked => (of_decide_eq_true picked).1
    case named => exact fun _ => rfl
    case unnamed => exact fun unnamed => absurd named unnamed
  · rw [refusedDimensions_of_unnamed named]
    apply isRefusal_filter
    case nonempty => exact filter_ne_nil_iff.mpr lowered
    case lowers => exact fun dimension picked => of_decide_eq_true picked
    case named => exact fun other => absurd other named
    case unnamed => exact fun _ => rfl

/-! ### Answers -/

/-- An answer that is no refusal fails the dimensions of the attempt, and nothing is tried again. -/
theorem proceed_failed (plan : Plan) (attempt : Attempt) (reason : String) :
    ∃ statuses, plan.proceed attempt (.error (.failed reason)) = .finished statuses ∧
      ∀ dimension ∈ plan.attempted attempt,
        statuses.get dimension = .failed (RuntimeError.failed reason).message := by
  cases attempt with
  | whole =>
      refine ⟨_, rfl, ?_⟩
      intro dimension mem
      exact (Statuses.get_setAll ..).trans (if_pos mem)
  | reduced refused =>
      refine ⟨_, rfl, ?_⟩
      intro dimension mem
      exact (Statuses.get_setAll ..).trans (if_pos mem)

/-- The answer to a request for some dimensions of a plan is a rejection exactly when it has the
code and the words of a refusal and the plan lowers one of the dimensions.  The executor then takes
the same dimensions to be refused, skips them and tries the others again, so that it never fails
the attempt for a rejection that it does not understand.  Any other answer fails the attempt, and
none follows it. -/
theorem answer_agrees_with_plan (plan : Plan) (dimensions : List Dimension) (code : Nat)
    (message : String) :
    (∀ rejected reason,
      RuntimeError.ofAnswer code message (plan.request dimensions) = .rejected rejected reason →
        reason = message ∧ plan.IsRefusal dimensions message rejected ∧
        plan.afterRejection dimensions rejected reason =
          (Statuses.unchanged.setAll rejected (.skipped .decreaseNotPermitted),
            dimensions.filter fun dimension => !rejected.contains dimension) ∧
        (dimensions = plan.changing →
          plan.proceed .whole (.error (.rejected rejected reason)) =
            if (plan.attempted (.reduced rejected)).isEmpty then
              .finished (Statuses.unchanged.setAll rejected (.skipped .decreaseNotPermitted))
            else .calling (.reduced rejected))) ∧
    ((∃ rejected reason,
        RuntimeError.ofAnswer code message (plan.request dimensions) = .rejected rejected reason) ↔
      Refusal.IsSaid code message ∧ ∃ dimension ∈ dimensions, plan.Lowers dimension) ∧
    (¬ (Refusal.IsSaid code message ∧ ∃ dimension ∈ dimensions, plan.Lowers dimension) →
      RuntimeError.ofAnswer code message (plan.request dimensions) =
        .failed (message ++ " (" ++ toString code ++ ")")) ∧
    ∀ attempt reason, ∃ statuses,
      plan.proceed attempt (.error (.failed reason)) = .finished statuses ∧
        ∀ dimension ∈ plan.attempted attempt,
          statuses.get dimension = .failed (RuntimeError.failed reason).message := by
  rw [← decreasing_request_ne_nil_iff]
  have isRejection (rejected : List Dimension) (reason : String)
      (answer : RuntimeError.ofAnswer code message (plan.request dimensions) =
        .rejected rejected reason) :
      Refusal.IsSaid code message ∧ (plan.request dimensions).decreasing ≠ [] := by
    apply Classical.byContradiction
    intro other
    rw [RuntimeError.ofAnswer_of_other other] at answer
    contradiction
  refine ⟨?understood, ?rejection, RuntimeError.ofAnswer_of_other, plan.proceed_failed⟩
  case understood =>
    intro rejected reason answer
    obtain ⟨isSaid, lowers⟩ := isRejection rejected reason answer
    rw [RuntimeError.ofAnswer_of_refusal isSaid lowers] at answer
    cases answer
    have isRefusal :=
      isRefusal_refusedDimensions (decreasing_request_ne_nil_iff.mp lowers) message
    refine ⟨rfl, isRefusal, isRefusal.afterRejection_eq message, ?_⟩
    rintro rfl
    exact isRefusal.proceed_eq message
  case rejection =>
    constructor
    · rintro ⟨rejected, reason, answer⟩
      exact isRejection rejected reason answer
    · rintro ⟨isSaid, lowers⟩
      exact ⟨_, _, RuntimeError.ofAnswer_of_refusal isSaid lowers⟩

/-- A plan that halves both the CPU and the memory of a container. -/
def halving : Plan :=
  .ofTargets ⟨⟨"default", "web-0"⟩, "app"⟩ ⟨1000, 512 * 1024 * 1024⟩ ⟨500, 256 * 1024 * 1024⟩

/-- A refusal in capital letters that names the memory alone leaves the CPU to a second call, and
the same words with another code fail both. -/
theorem answer_agrees_with_plan_in_capitals :
    halving.IsRefusal halving.changing "MEMORY LIMITS CANNOT BE DECREASED" [.memory] ∧
      halving.proceed .whole (.error (.rejected [.memory] "MEMORY LIMITS CANNOT BE DECREASED")) =
        .calling (.reduced [.memory]) ∧
      RuntimeError.ofAnswer 500 "MEMORY LIMITS CANNOT BE DECREASED"
        (halving.request halving.changing) = .failed "MEMORY LIMITS CANNOT BE DECREASED (500)" := by
  obtain ⟨understood, -, -, -⟩ :=
    halving.answer_agrees_with_plan halving.changing 422 "MEMORY LIMITS CANNOT BE DECREASED"
  have answer : RuntimeError.ofAnswer 422 "MEMORY LIMITS CANNOT BE DECREASED"
      (halving.request halving.changing) =
        .rejected [.memory] "MEMORY LIMITS CANNOT BE DECREASED" := by
    decide +kernel
  obtain ⟨-, isRefusal, -, proceeds⟩ := understood _ _ answer
  obtain ⟨-, -, failed, -⟩ :=
    halving.answer_agrees_with_plan halving.changing 500 "MEMORY LIMITS CANNOT BE DECREASED"
  refine ⟨isRefusal, proceeds rfl, ?_⟩
  apply failed
  rintro ⟨⟨code, -⟩, -⟩
  exact absurd code (by decide)

end Plan

end PodSizing
