import PodSizing.Proofs.Cluster.Refusal

/-!
# Names of pods in refusals

The words of a refusal are looked for in the whole of its message, and the API server quotes the
name of the pod in it.  Only this name can mislead: around it stand fixed words and digits, parted
from each other by marks that no word has.  A pod whose name says `cpu` or `memory` makes a refusal
of the one dimension look like a refusal of both.
-/

namespace PodSizing

namespace Refusal

/-! ### The message -/

/-- The message of the API server when a limit of a container cannot be lowered. -/
def limitMessage (pod : String) (index : Nat) (dimension : Dimension) : String :=
  "Pod \"" ++ pod ++ "\" is invalid: spec.containers[" ++ toString index ++ "].resources.limits[" ++
    dimension.name ++ "]: Forbidden: " ++ dimension.name ++ " limits cannot be decreased"

example : limitMessage "web-0" 0 .memory =
    "Pod \"web-0\" is invalid: spec.containers[0].resources.limits[memory]: Forbidden: " ++
      "memory limits cannot be decreased" := by
  decide +kernel

/-- The parts of the message in small letters, with the marks that stand between them. -/
theorem map_toLower_limitMessage (pod : String) (index : Nat) (dimension : Dimension) :
    (limitMessage pod index dimension).toList.map Char.toLower =
      "pod ".toList ++ '"' :: (pod.toList.map Char.toLower ++ '"' ::
        (" is invalid: spec.containers".toList ++ '[' ::
          ((Nat.toDigits 10 index).map Char.toLower ++ ']' ::
            (".resources.limits".toList ++ '[' ::
              (dimension.name.toList ++ ']' ::
                (": forbidden: " ++ dimension.name ++
                  " limits cannot be decreased").toList))))) := by
  have digits : (toString index).toList = Nat.toDigits 10 index := Nat.toList_repr
  simp only [limitMessage, String.toList_append, digits, List.map_append, List.append_assoc]
  cases dimension with
  | cpu => rfl
  | memory => rfl

/-- A phrase without the marks stands in one of the parts. -/
theorem mentions_limitMessage_iff {phrase : String}
    (unmarked : '"' ∉ phrase.toList ∧ '[' ∉ phrase.toList ∧ ']' ∉ phrase.toList) (pod : String)
    (index : Nat) (dimension : Dimension) :
    Text.mentions (limitMessage pod index dimension) phrase = true ↔
      phrase.toList <:+: "pod ".toList ∨ Text.mentions pod phrase = true ∨
        phrase.toList <:+: " is invalid: spec.containers".toList ∨
        phrase.toList <:+: (Nat.toDigits 10 index).map Char.toLower ∨
        phrase.toList <:+: ".resources.limits".toList ∨
        phrase.toList <:+: dimension.name.toList ∨
        phrase.toList <:+:
          (": forbidden: " ++ dimension.name ++ " limits cannot be decreased").toList := by
  obtain ⟨quote, opening, closing⟩ := unmarked
  rw [Text.mentions, Text.mentions, Text.occursIn_iff, Text.occursIn_iff,
    map_toLower_limitMessage, Text.infix_append_cons_iff quote, Text.infix_append_cons_iff quote,
    Text.infix_append_cons_iff opening, Text.infix_append_cons_iff closing,
    Text.infix_append_cons_iff opening, Text.infix_append_cons_iff closing]

theorem isDigit_of_mem_digits {index : Nat} {c : Char}
    (mem : c ∈ (Nat.toDigits 10 index).map Char.toLower) : c.isDigit = true := by
  obtain ⟨digit, written, rfl⟩ := List.mem_map.mp mem
  have isDigit : digit.isDigit = true :=
    Nat.isDigit_of_mem_toDigits (by decide) (by decide) written
  have noLetter : digit.toLower = digit := by
    apply dif_neg
    rintro ⟨first, -⟩
    have first : 65 ≤ digit.toNat := first
    have last : digit.toNat ≤ 57 := (Char.isDigit_iff_toNat.mp isDigit).2
    omega
  rw [noLetter]
  exact isDigit

/-- The name of a dimension is not written in digits. -/
theorem not_name_infix_digits (dimension : Dimension) (index : Nat) :
    ¬ dimension.name.toList <:+: (Nat.toDigits 10 index).map Char.toLower := by
  intro found
  cases dimension with
  | cpu => exact absurd (isDigit_of_mem_digits (found.subset (a := 'c') (by decide))) (by decide)
  | memory => exact absurd (isDigit_of_mem_digits (found.subset (a := 'm') (by decide))) (by decide)

/-- The message says the name of the dimension that it is about, and what the name of the pod
says. -/
theorem says_limitMessage_iff {pod : String} {index : Nat} {dimension other : Dimension} :
    Text.Says (limitMessage pod index dimension) other.name ↔
      other = dimension ∨ Text.Says pod other.name := by
  have unmarked : '"' ∉ other.name.toList ∧ '[' ∉ other.name.toList ∧ ']' ∉ other.name.toList := by
    cases other <;> decide +kernel
  have start : ¬ other.name.toList <:+: "pod ".toList := by
    cases other <;> decide +kernel
  have containers : ¬ other.name.toList <:+: " is invalid: spec.containers".toList := by
    cases other <;> decide +kernel
  have limits : ¬ other.name.toList <:+: ".resources.limits".toList := by
    cases other <;> decide +kernel
  have named : other.name.toList <:+: dimension.name.toList ∨ other.name.toList <:+:
      (": forbidden: " ++ dimension.name ++ " limits cannot be decreased").toList ↔
        other = dimension := by
    cases other <;> cases dimension <;> decide +kernel
  rw [← mentions_name_iff, ← mentions_name_iff, mentions_limitMessage_iff unmarked, named,
    or_iff_right start, or_iff_right containers, or_iff_right (not_name_infix_digits other index),
    or_iff_right limits, or_comm]

theorem isSaid_limitMessage (pod : String) (index : Nat) (dimension : Dimension) :
    IsSaid 422 (limitMessage pod index dimension) := by
  have mem : "cannot be decreased" ∈ decreasePhrases := List.mem_cons_self
  refine ⟨.inr rfl, "cannot be decreased", mem, ?_⟩
  rw [← Text.mentions_iff_says (isPlain_of_mem_decreasePhrases _ mem),
    mentions_limitMessage_iff (by decide +kernel)]
  iterate 6 apply Or.inr
  refine ⟨(": forbidden: " ++ dimension.name ++ " limits ").toList, [], ?_⟩
  cases dimension <;> rfl

/-! ### What the name of a pod does -/

variable {request : ResizeRequest} {pod : String} {dimension : Dimension}
  {dimensions : List Dimension}

/-- The dimensions that the message about one of them names, with those that stand in the name of
the pod. -/
def namedIn (pod : String) (dimension : Dimension) (dimensions : List Dimension) :
    List Dimension :=
  dimensions.filter fun other => other = dimension ∨ Text.Says pod other.name

/-- The name of the pod says the name of another dimension. -/
def NamesOther (pod : String) (dimension : Dimension) : Prop :=
  ∃ other, other ≠ dimension ∧ Text.Says pod other.name

theorem namedIn_of_silent (silent : ¬ NamesOther pod dimension)
    (both : dimensions.Perm [.cpu, .memory]) : namedIn pod dimension dimensions = [dimension] := by
  have only : namedIn pod dimension dimensions =
      dimensions.filter fun other => other = dimension := by
    apply List.filter_congr
    intro other _
    rw [Bool.eq_iff_iff, decide_eq_true_iff, decide_eq_true_iff]
    apply or_iff_left_of_imp
    intro said
    exact Decidable.byContradiction fun different => silent ⟨other, different, said⟩
  have filtered := both.filter fun other => decide (other = dimension)
  rw [only]
  apply List.perm_singleton.mp
  cases dimension with
  | cpu => exact filtered
  | memory => exact filtered

theorem namedIn_of_namesOther (names : NamesOther pod dimension) (dimensions : List Dimension) :
    namedIn pod dimension dimensions = dimensions := by
  obtain ⟨named, different, said⟩ := names
  apply List.filter_eq_self.mpr
  intro other _
  apply decide_eq_true
  by_cases same : other = dimension
  · exact .inl same
  · -- There are but two dimensions.
    have isNamed : other = named := by
      cases other <;> cases named <;> cases dimension <;> trivial
    exact .inr (isNamed ▸ said)

/-- The message refuses the dimension that it is about, and with it those whose names stand in the
name of the pod. -/
theorem ofAnswer_limitMessage (lowered : dimension ∈ request.decreasing) (pod : String)
    (index : Nat) :
    RuntimeError.ofAnswer 422 (limitMessage pod index dimension) request =
      .rejected (namedIn pod dimension request.decreasing)
        (limitMessage pod index dimension) := by
  have named : (request.decreasing.filter fun other =>
      Text.mentions (limitMessage pod index dimension) other.name) =
        namedIn pod dimension request.decreasing := by
    apply List.filter_congr
    intro other _
    rw [Bool.eq_iff_iff, mentions_name_iff, says_limitMessage_iff, decide_eq_true_iff]
  have nonempty : namedIn pod dimension request.decreasing ≠ [] :=
    List.ne_nil_of_mem (List.mem_filter.mpr ⟨lowered, decide_eq_true (.inl rfl)⟩)
  rw [RuntimeError.ofAnswer_of_refusal (isSaid_limitMessage pod index dimension)
      (List.ne_nil_of_mem lowered), refusedDimensions, named,
    if_neg (mt List.isEmpty_iff.mp nonempty)]

section Both

variable (both : request.decreasing.Perm [.cpu, .memory])

include both

theorem ofAnswer_limitMessage_of_silent (silent : ¬ NamesOther pod dimension) (index : Nat) :
    RuntimeError.ofAnswer 422 (limitMessage pod index dimension) request =
      .rejected [dimension] (limitMessage pod index dimension) := by
  rw [ofAnswer_limitMessage (both.mem_iff.mpr (Dimension.mem_all dimension)),
    namedIn_of_silent silent both]

theorem ofAnswer_limitMessage_of_namesOther (names : NamesOther pod dimension) (index : Nat) :
    RuntimeError.ofAnswer 422 (limitMessage pod index dimension) request =
      .rejected request.decreasing (limitMessage pod index dimension) := by
  rw [ofAnswer_limitMessage (both.mem_iff.mpr (Dimension.mem_all dimension)),
    namedIn_of_namesOther names]

/-- A message is read as one about both dimensions just where the name of the pod says the name of
the other. -/
theorem rejected_ne_singleton_iff {index : Nat} {rejected : List Dimension}
    (answer : RuntimeError.ofAnswer 422 (limitMessage pod index dimension) request =
      .rejected rejected (limitMessage pod index dimension)) :
    rejected ≠ [dimension] ↔ NamesOther pod dimension := by
  by_cases names : NamesOther pod dimension
  · rw [ofAnswer_limitMessage_of_namesOther both names] at answer
    cases answer
    apply iff_of_true _ names
    intro alone
    have length := both.length_eq
    rw [alone] at length
    exact absurd length (by simp)
  · rw [ofAnswer_limitMessage_of_silent both names] at answer
    cases answer
    exact iff_of_false (fun different => different rfl) names

/-- Where both dimensions are lowered, the message about one of them refuses this one alone unless
the name of the pod says the name of the other; then it refuses both.  So two messages that differ
in the name of the pod are read alike exactly when both names say it or neither does. -/
theorem limit_refusal_follows_pod_name (pod : String) (index : Nat) (dimension : Dimension) :
    (¬ NamesOther pod dimension →
      RuntimeError.ofAnswer 422 (limitMessage pod index dimension) request =
        .rejected [dimension] (limitMessage pod index dimension)) ∧
    (NamesOther pod dimension →
      RuntimeError.ofAnswer 422 (limitMessage pod index dimension) request =
        .rejected request.decreasing (limitMessage pod index dimension)) ∧
    ∀ pod',
      (∃ rejected,
        RuntimeError.ofAnswer 422 (limitMessage pod index dimension) request =
            .rejected rejected (limitMessage pod index dimension) ∧
          RuntimeError.ofAnswer 422 (limitMessage pod' index dimension) request =
            .rejected rejected (limitMessage pod' index dimension)) ↔
      (NamesOther pod dimension ↔ NamesOther pod' dimension) := by
  refine ⟨fun silent => ofAnswer_limitMessage_of_silent both silent index,
    fun names => ofAnswer_limitMessage_of_namesOther both names index, ?_⟩
  intro pod'
  constructor
  · rintro ⟨rejected, first, second⟩
    exact (rejected_ne_singleton_iff both first).symm.trans (rejected_ne_singleton_iff both second)
  · intro same
    by_cases names : NamesOther pod dimension
    · exact ⟨_, ofAnswer_limitMessage_of_namesOther both names index,
        ofAnswer_limitMessage_of_namesOther both (same.mp names) index⟩
    · exact ⟨_, ofAnswer_limitMessage_of_silent both names index,
        ofAnswer_limitMessage_of_silent both (mt same.mpr names) index⟩

end Both

/-- The refusal to lower the memory of the pod `web-0` is read as it is meant. -/
theorem limit_refusal_follows_pod_name_web :
    RuntimeError.ofAnswer 422 (limitMessage "web-0" 0 .memory)
      (Plan.halving.request Plan.halving.changing) =
        .rejected [.memory] (limitMessage "web-0" 0 .memory) := by
  have both : (Plan.halving.request Plan.halving.changing).decreasing.Perm [.cpu, .memory] := by
    decide +kernel
  have silent : ¬ NamesOther "web-0" .memory := by
    rintro ⟨other, different, said⟩
    cases other with
    | cpu => exact absurd said (by decide +kernel)
    | memory => contradiction
  exact (limit_refusal_follows_pod_name both "web-0" 0 .memory).1 silent

/-- The same refusal for the pod `cpu-worker` is taken to be one of the CPU as well, which is then
skipped together with the memory; for `web-0` it would have been tried again. -/
theorem cpu_refused_by_pod_name :
    RuntimeError.ofAnswer 422 (limitMessage "cpu-worker" 0 .memory)
      (Plan.halving.request Plan.halving.changing) =
        .rejected [.cpu, .memory] (limitMessage "cpu-worker" 0 .memory) ∧
      Plan.halving.proceed .whole
          (.error (RuntimeError.ofAnswer 422 (limitMessage "cpu-worker" 0 .memory)
            (Plan.halving.request Plan.halving.changing))) =
        .finished ⟨.skipped .decreaseNotPermitted, .skipped .decreaseNotPermitted⟩ ∧
      Plan.halving.proceed .whole
          (.error (RuntimeError.ofAnswer 422 (limitMessage "web-0" 0 .memory)
            (Plan.halving.request Plan.halving.changing))) =
        .calling (.reduced [.memory]) := by
  decide +kernel

end Refusal

end PodSizing
