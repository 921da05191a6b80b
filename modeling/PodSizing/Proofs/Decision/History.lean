import Mathlib.Data.List.Induction
import PodSizing.Plan
import PodSizing.Proofs.Decision
import PodSizing.Proofs.Lookup

/-!
# Cooldowns as a history

A table of cooldowns forgets: a change replaces an earlier one, and pruning drops what has expired.
Still, every decision is the one that the whole history of recorded changes calls for, as long as
nothing is decided as of an instant before one at which the table was pruned.
-/

namespace PodSizing

/-- What is done with a table of cooldowns. -/
inductive CooldownUse where
  | record (key : CooldownKey) (changed : Instant)
  | prune (now : Instant)
  | classify (sample : Sample) (now : Instant)

/-- What the use of a table of cooldowns returns. -/
inductive CooldownAnswer where
  | recorded
  /-- So many entries were dropped. -/
  | pruned (count : Nat)
  /-- There is no plan when a target is needed between inverted bounds. -/
  | classified (plan : Option Plan)
  deriving DecidableEq

namespace CooldownUse

/-- The change that is recorded for a dimension of a container. -/
def change? (key : CooldownKey) : CooldownUse → Option Instant
  | .record other changed => if other = key then some changed else none
  | _ => none

/-- Nothing is decided as of an instant before one at which the table was pruned. -/
def InOrder : CooldownUse → CooldownUse → Prop
  | .prune pruned, .classify _ now => pruned ≤ now
  | _, _ => True

instance : ∀ first second, Decidable (InOrder first second)
  | .prune pruned, .classify _ now => inferInstanceAs (Decidable (pruned ≤ now))
  | .prune _, .record _ _ | .prune _, .prune _ | .record _ _, _ | .classify _ _, _ =>
      .isTrue trivial

/-- The latest change of a dimension of a container. -/
def lastChange? (uses : List CooldownUse) (key : CooldownKey) : Option Instant :=
  uses.reverse.findSome? (change? key)

@[simp]
theorem lastChange?_concat (uses : List CooldownUse) (use : CooldownUse) (key : CooldownKey) :
    lastChange? (uses ++ [use]) key = (use.change? key).or (lastChange? uses key) := by
  simp only [lastChange?, List.reverse_append, List.reverse_singleton, List.singleton_append,
    List.findSome?_cons]
  cases use.change? key <;> rfl

/-- The use records a change of the container. -/
def concerns (container : ContainerId) : CooldownUse → Bool
  | .record key _ => key.1 = container
  | _ => false

/-- Only recording a change of the dimension records one. -/
theorem eq_record_of_change? {use : CooldownUse} {key : CooldownKey} {changed : Instant}
    (found : use.change? key = some changed) : use = .record key changed := by
  cases use with
  | record other stamp =>
      obtain ⟨rfl, same⟩ := Option.ite_none_right_eq_some.mp found
      rw [Option.some.inj same]
  | prune | classify => contradiction

theorem concerns_of_change? {use : CooldownUse} {key : CooldownKey} {changed : Instant}
    (found : use.change? key = some changed) : use.concerns key.1 = true := by
  rw [eq_record_of_change? found, concerns, decide_eq_true rfl]

/-- Uses that record no change of the dimension may be left out. -/
theorem lastChange?_filter {key : CooldownKey} {kept : CooldownUse → Bool}
    (keeps : ∀ use changed, use.change? key = some changed → kept use = true)
    (uses : List CooldownUse) : lastChange? (uses.filter kept) key = lastChange? uses key := by
  simp only [lastChange?, ← List.filter_reverse]
  induction uses.reverse with
  | nil => rfl
  | cons use rest ih =>
      cases found : use.change? key with
      | none => cases here : kept use <;> simp [found, here, ih]
      | some changed => simp [found, keeps use changed found]

end CooldownUse

namespace CooldownTable

theorem get?_of_mem (table : CooldownTable) {entry : CooldownKey × Instant}
    (mem : entry ∈ table.entries) : table.get? entry.1 = some entry.2 :=
  (lookup_eq_some_iff_mem table.nodup_keys).mpr mem

/-- The number of dropped entries is that of the entries which are not found any more. -/
theorem prunedCount_eq_countP (table : CooldownTable) (now : Instant) (window : Duration) :
    table.prunedCount now window =
      table.entries.countP fun entry => ((table.prune now window).get? entry.1).isNone := by
  let rests (entry : CooldownKey × Instant) : Bool := now < Cooldown.expiry entry.2 window
  have kept : (table.prune now window).size = table.entries.countP rests :=
    List.countP_eq_length_filter.symm
  have total : table.size = table.entries.countP rests + table.entries.countP (!rests ·) := by
    simpa [size] using table.entries.length_eq_countP_add_countP rests
  have dropped : table.entries.countP (fun entry =>
      ((table.prune now window).get? entry.1).isNone) = table.entries.countP (!rests ·) := by
    apply List.countP_congr
    intro entry mem
    rw [get?_prune, table.get?_of_mem mem]
    by_cases resting : now < Cooldown.expiry entry.2 window <;>
      simp [Option.filter, rests, resting]
  rw [prunedCount, kept, total, dropped, Nat.add_sub_cancel_left]

/-- Pruning adds nothing. -/
theorem get?_of_prune {table : CooldownTable} {now : Instant} {window : Duration}
    {key : CooldownKey} {changed : Instant}
    (found : (table.prune now window).get? key = some changed) : table.get? key = some changed := by
  rw [get?_prune, Option.filter_eq_some_iff] at found
  exact found.1

end CooldownTable

namespace Policy

/-- One use of a table. -/
def use (policy : Policy) (table : CooldownTable) :
    CooldownUse → CooldownTable × CooldownAnswer
  | .record key changed => (table.record key changed, .recorded)
  | .prune now =>
      (table.prune now policy.cooldown, .pruned (table.prunedCount now policy.cooldown))
  | .classify sample now =>
      (table, .classified (policy.assess? table now sample))

/-- The table after some uses, of which the first found it empty. -/
def tableAfter (policy : Policy) (uses : List CooldownUse) : CooldownTable :=
  uses.foldl (fun table use => (policy.use table use).1) .empty

/-- What a use returns after others. -/
def answerAfter (policy : Policy) (before : List CooldownUse) (use : CooldownUse) :
    CooldownAnswer :=
  (policy.use (policy.tableAfter before) use).2

/-- The decision about a dimension whose latest change is known: none is held back when the window
after this change has passed. -/
def decideAfter? (policy : Policy) (changed : Option Instant) (now : Instant) (sample : Sample)
    (dimension : Dimension) : Option Decision :=
  (policy.decide? dimension (sample.usage.get dimension) (sample.allocation.get dimension)).map
    fun decision =>
      match changed with
      | some changed =>
          if Cooldown.expiry changed policy.cooldown ≤ now then decision
          else .keep dimension decision.current decision.utilization
      | none => decision

@[simp]
theorem tableAfter_concat (policy : Policy) (uses : List CooldownUse) (use : CooldownUse) :
    policy.tableAfter (uses ++ [use]) = (policy.use (policy.tableAfter uses) use).1 := by
  simp [tableAfter]

/-- The plan for a sample of a container whose latest changes are known. -/
def assessAfter? (policy : Policy) (changed : Dimension → Option Instant) (now : Instant)
    (sample : Sample) : Option Plan := do
  let cpu ← policy.decideAfter? (changed .cpu) now sample .cpu
  let memory ← policy.decideAfter? (changed .memory) now sample .memory
  some ⟨sample.container, ⟨cpu, memory⟩, sample.allocation⟩

variable {policy : Policy}

open CooldownUse

/-- The window after the latest change of a dimension had passed at an instant as of which the table
was pruned. -/
def HasExpired (policy : Policy) (uses : List CooldownUse) (key : CooldownKey) : Prop :=
  ∃ changed pruned, lastChange? uses key = some changed ∧ .prune pruned ∈ uses ∧
    Cooldown.expiry changed policy.cooldown ≤ pruned

theorem HasExpired.concat {uses : List CooldownUse} {last : CooldownUse} {key : CooldownKey}
    (expired : policy.HasExpired uses key) (unchanged : last.change? key = none) :
    policy.HasExpired (uses ++ [last]) key := by
  obtain ⟨changed, pruned, latest, mem, passed⟩ := expired
  refine ⟨changed, pruned, ?_, List.mem_append_left _ mem, passed⟩
  rw [lastChange?_concat, unchanged, Option.none_or, latest]

/-- What a table has of the latest change of a dimension: the change itself, or nothing when it has
expired. -/
theorem get?_tableAfter (policy : Policy) (uses : List CooldownUse) (key : CooldownKey) :
    (policy.tableAfter uses).get? key = lastChange? uses key ∨
      (policy.tableAfter uses).get? key = none ∧ policy.HasExpired uses key := by
  -- The induction is on the uses from their end: the last one makes the table what it is.
  induction uses using List.reverseRecOn with
  | nil => exact .inl rfl
  | append_singleton uses last ih =>
      rw [tableAfter_concat, lastChange?_concat]
      cases change : last.change? key with
      | some changed =>
          left
          rw [eq_record_of_change? change, use, CooldownTable.get?_record, if_pos rfl,
            Option.some_or]
      | none =>
          rw [Option.none_or]
          cases last with
          | classify sample now =>
              exact ih.imp_right (And.imp_right fun expired => expired.concat change)
          | record other changed =>
              have ne : key ≠ other := by
                rintro rfl
                exact Option.some_ne_none _ ((if_pos rfl).symm.trans change)
              rw [use, CooldownTable.get?_record, if_neg ne]
              exact ih.imp_right (And.imp_right fun expired => expired.concat change)
          | prune now =>
              rw [use, CooldownTable.get?_prune]
              rcases ih with found | ⟨absent, expired⟩
              · rw [found]
                cases latest : lastChange? uses key with
                | none => exact .inl rfl
                | some changed =>
                    by_cases resting : now < Cooldown.expiry changed policy.cooldown
                    · left
                      rw [Option.filter_some, if_pos (decide_eq_true resting)]
                    · right
                      constructor
                      · rw [Option.filter_some, if_neg (by simp [resting])]
                      · refine ⟨changed, now, ?_, by simp, Int.not_lt.mp resting⟩
                        rw [lastChange?_concat, change, Option.none_or, latest]
              · right
                exact ⟨by rw [absent]; rfl, expired.concat change⟩

/-- A dimension rests when the window after its latest change has not passed. -/
theorem isResting_tableAfter {uses : List CooldownUse} {now : Instant}
    (ordered : ∀ pruned, .prune pruned ∈ uses → pruned ≤ now) (key : CooldownKey) :
    (policy.tableAfter uses).isResting key now policy.cooldown =
      (lastChange? uses key).any fun changed => now < Cooldown.expiry changed policy.cooldown := by
  rw [CooldownTable.isResting]
  rcases policy.get?_tableAfter uses key with
    found | ⟨absent, changed, pruned, latest, mem, expired⟩
  · rw [found]
    cases lastChange? uses key <;> rfl
  · have passed : ¬ now < Cooldown.expiry changed policy.cooldown :=
      Int.not_lt.mpr (Int.le_trans expired (ordered pruned mem))
    simp [absent, latest, passed]

/-- What is decided with a table is what is decided with the latest change. -/
theorem decideResting?_tableAfter {uses : List CooldownUse} {now : Instant}
    (ordered : ∀ pruned, .prune pruned ∈ uses → pruned ≤ now) (sample : Sample)
    (dimension : Dimension) :
    policy.decideResting? (policy.tableAfter uses) now sample dimension =
      policy.decideAfter? (lastChange? uses (sample.container, dimension)) now sample dimension := by
  rw [decideResting?, decideAfter?, isResting_tableAfter ordered]
  apply Option.map_congr
  intro decision decided
  cases lastChange? uses (sample.container, dimension) with
  | none => simp
  | some changed =>
      by_cases passed : Cooldown.expiry changed policy.cooldown ≤ now
      · have free : ¬ now < Cooldown.expiry changed policy.cooldown := Int.not_lt.mpr passed
        simp [passed, free]
      · have resting : now < Cooldown.expiry changed policy.cooldown := Int.not_le.mp passed
        simp only [Option.any_some, resting, decide_true, Bool.and_true, if_neg passed]
        cases changes : decision.isChange with
        | true => rfl
        | false =>
            have kept := (decide?_eq_some_iff.mp decided).eq_keep changes
            rw [kept]
            rfl

/-- The plan made with a table is the plan made with the latest changes. -/
theorem assess?_tableAfter {uses : List CooldownUse} {now : Instant}
    (ordered : ∀ pruned, .prune pruned ∈ uses → pruned ≤ now) (sample : Sample) :
    policy.assess? (policy.tableAfter uses) now sample =
      policy.assessAfter? (fun dimension => lastChange? uses (sample.container, dimension)) now
        sample := by
  rw [assess?, assessAfter?, decideResting?_tableAfter ordered, decideResting?_tableAfter ordered]

/-- A table of cooldowns works like the history of changes: a classification decides by the latest
change of each dimension, and neither another classification, nor pruning, nor a change of something
else has a part in it.  Pruning only drops, and counts what it drops. -/
theorem answers_follow_history {uses : List CooldownUse}
    (ordered : uses.Pairwise CooldownUse.InOrder) :
    (∀ before sample now after, uses = before ++ .classify sample now :: after →
      policy.answerAfter before (.classify sample now) =
        .classified (policy.assessAfter?
          (fun dimension => lastChange? before (sample.container, dimension)) now sample) ∧
      policy.tableAfter (before ++ [.classify sample now]) = policy.tableAfter before ∧
      policy.answerAfter (before.filter (CooldownUse.concerns sample.container))
        (.classify sample now) = policy.answerAfter before (.classify sample now) ∧
      ∀ dimension,
        let records (use : CooldownUse) := (use.change? (sample.container, dimension)).isSome
        policy.decideResting? (policy.tableAfter (before.filter records)) now sample dimension =
          policy.decideResting? (policy.tableAfter before) now sample dimension) ∧
    (∀ before now after, uses = before ++ .prune now :: after →
      let table := policy.tableAfter before
      let pruned := policy.tableAfter (before ++ [.prune now])
      policy.answerAfter before (.prune now) =
        .pruned (table.entries.countP fun entry => (pruned.get? entry.1).isNone) ∧
      ∀ key changed, pruned.get? key = some changed → table.get? key = some changed) := by
  constructor
  · rintro before sample now after rfl
    have sooner : ∀ pruned, .prune pruned ∈ before → pruned ≤ now := by
      intro pruned mem
      exact (List.pairwise_append.mp ordered).2.2 _ mem _ List.mem_cons_self
    have fewer (kept : CooldownUse → Bool) :
        ∀ pruned, .prune pruned ∈ before.filter kept → pruned ≤ now :=
      fun pruned mem => sooner pruned (List.mem_filter.mp mem).1
    refine ⟨?_, tableAfter_concat .., ?_, ?_⟩
    · exact congrArg CooldownAnswer.classified (assess?_tableAfter sooner sample)
    · apply congrArg CooldownAnswer.classified
      rw [assess?_tableAfter sooner, assess?_tableAfter (fewer _)]
      have same (dimension : Dimension) :
          lastChange? (before.filter (concerns sample.container)) (sample.container, dimension) =
            lastChange? before (sample.container, dimension) :=
        lastChange?_filter (fun _ _ found => concerns_of_change? found) before
      simp only [same]
    · intro dimension records
      rw [decideResting?_tableAfter sooner, decideResting?_tableAfter (fewer _),
        lastChange?_filter fun _ _ found => Option.isSome_of_mem found]
  · rintro before now after rfl table pruned
    have dropping : pruned = table.prune now policy.cooldown := tableAfter_concat ..
    rw [dropping]
    refine ⟨?_, fun key changed => CooldownTable.get?_of_prune⟩
    exact congrArg CooldownAnswer.pruned (table.prunedCount_eq_countP now policy.cooldown)

end Policy

/-- A container that uses more memory than the default policy allows before it acts. -/
def pressedSample : Sample :=
  ⟨⟨⟨"default", "web"⟩, "app"⟩, ⟨50, 950⟩, ⟨⟨100, 100⟩, ⟨1000, 1000⟩⟩⟩

/-- A number of seconds after the start of 1970. -/
def Instant.ofSeconds (seconds : Nat) : Instant :=
  ((default : Instant).add? (.ofSeconds seconds)).getD .last

/-- The second change is stamped before the first, and its window ends at the first pruning; the
third change is one of another container. -/
def fewUses : List CooldownUse :=
  let memory : CooldownKey := (pressedSample.container, .memory)
  [.record memory (.ofSeconds 100), .record memory (.ofSeconds 0),
    .record (⟨⟨"default", "db"⟩, "app"⟩, .memory) (.ofSeconds 200), .prune (.ofSeconds 300),
    .classify pressedSample (.ofSeconds 300), .record memory (.ofSeconds 300),
    .prune (.ofSeconds 400), .classify pressedSample (.ofSeconds 599)]

theorem Policy.answers_follow_history_past_and_pruned :
    let policy := Policy.default
    fewUses.Pairwise CooldownUse.InOrder ∧
    policy.answerAfter (fewUses.take 3) (.prune (.ofSeconds 300)) = .pruned 1 ∧
    ∃ changing kept,
      policy.answerAfter (fewUses.take 4) (.classify pressedSample (.ofSeconds 300)) =
        .classified (some changing) ∧
      changing.changing = [.memory] ∧
      policy.answerAfter (fewUses.take 7) (.classify pressedSample (.ofSeconds 599)) =
        .classified (some kept) ∧
      kept.changing = [] := by
  intro policy
  have ordered : fewUses.Pairwise CooldownUse.InOrder := by decide +kernel
  obtain ⟨classifies, prunes⟩ := policy.answers_follow_history ordered
  have dropped := (prunes (fewUses.take 3) (.ofSeconds 300) (fewUses.drop 4) rfl).1
  have first := (classifies (fewUses.take 4) pressedSample (.ofSeconds 300) (fewUses.drop 5) rfl).1
  have second := (classifies (fewUses.take 7) pressedSample (.ofSeconds 599) [] rfl).1
  let past (count : Nat) (dimension : Dimension) : Option Instant :=
    CooldownUse.lastChange? (fewUses.take count) (pressedSample.container, dimension)
  let changing := (policy.assessAfter? (past 4) (.ofSeconds 300) pressedSample).get
    (by decide +kernel)
  let kept := (policy.assessAfter? (past 7) (.ofSeconds 599) pressedSample).get
    (by decide +kernel)
  have changes : policy.assessAfter? (past 4) (.ofSeconds 300) pressedSample = some changing :=
    (Option.some_get _).symm
  have keeps : policy.assessAfter? (past 7) (.ofSeconds 599) pressedSample = some kept :=
    (Option.some_get _).symm
  exact ⟨ordered, dropped.trans (by decide +kernel), changing, kept, changes ▸ first,
    by decide +kernel, keeps ▸ second, by decide +kernel⟩

end PodSizing
