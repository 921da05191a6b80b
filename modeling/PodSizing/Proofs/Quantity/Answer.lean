import PodSizing.Proofs.Binary64.Quotient
import PodSizing.Proofs.Lookup
import PodSizing.Proofs.Quantity

/-!
# What reading a quantity answers

Amounts of CPU and of memory are read alike: the text is split, the number is scaled as its suffix
says, and the result is rounded up.  The number has to be finite, the suffix known, and the scaled
number below `2 ^ 64`, and the first of these that fails is the reason given.  `FollowsGrammar` says
for each answer when it is given, in terms of the parts of the text alone.
-/

namespace PodSizing.Quantity

open Numeral (IsMark DigitsFollow)
open Text (isBlank)

/-! ### Suffixes -/

/-- What a suffix makes of a number. -/
abbrev Scale := Binary64 → Binary64

/-- The suffixes of CPU amounts: how a number of cores, thousandths, millionths and so on becomes
one of millicores. -/
def cpuScales : List (String × Scale) :=
  [("", fun number => coresIn 3 number),
   ("m", fun number => coresIn 3 (number * decimalFraction 3)),
   ("u", fun number => coresIn 3 (number * decimalFraction 6)),
   ("n", fun number => coresIn 3 (number * decimalFraction 9))]

/-- The suffixes of memory amounts with the bytes that they stand for. -/
def memoryUnits : List (String × Nat) :=
  [("", 1), ("k", Nat.pow 10 3), ("M", Nat.pow 10 6), ("G", Nat.pow 10 9), ("T", Nat.pow 10 12),
   ("P", Nat.pow 10 15), ("E", Nat.pow 10 18), ("Ki", Nat.pow 1024 1), ("Mi", Nat.pow 1024 2),
   ("Gi", Nat.pow 1024 3), ("Ti", Nat.pow 1024 4), ("Pi", Nat.pow 1024 5), ("Ei", Nat.pow 1024 6)]

/-- So many times the number. -/
def multiple (factor : Nat) : Scale := fun number => number * .ofNat factor

/-- How a number before a suffix of memory amounts becomes one of bytes. -/
def memoryScales : List (String × Scale) :=
  memoryUnits.map fun unit => (unit.1, multiple unit.2)

private theorem lookup_cpuScales (suffix : String) :
    cpuScales.lookup suffix = (cpuPlaces? suffix).map fun places number =>
      coresIn 3 (if places = 0 then number else number * decimalFraction places) := by
  unfold cpuPlaces?
  split
  case h_5 =>
    rw [Option.map_none, List.lookup_eq_none_iff]
    simp_all [cpuScales]
  all_goals rfl

theorem lookup_memoryUnits (suffix : String) :
    memoryUnits.lookup suffix = memoryFactor? suffix := by
  unfold memoryFactor?
  split
  case h_14 =>
    rw [List.lookup_eq_none_iff]
    simp_all [memoryUnits]
  all_goals rfl

private theorem lookup_memoryScales (suffix : String) :
    memoryScales.lookup suffix = (memoryFactor? suffix).map multiple := by
  rw [memoryScales, lookup_map_value, lookup_memoryUnits]

/-! ### Amounts -/

/-- Reads an amount with a list of suffixes. -/
def measure (scales : List (String × Scale)) (text : String) : Except QuantityError Nat := do
  let (number, suffix) ← split text
  match scales.lookup suffix with
  | none => throw (.unknownSuffix suffix)
  | some scale =>
      match ceilWhole? (scale number) with
      | some amount => pure amount
      | none => throw (.outOfRange text)

theorem millicores_eq (text : String) : millicores text = measure cpuScales text := by
  rw [millicores, cores, measure]
  cases split text with
  | error => rfl
  | ok parts =>
      obtain ⟨number, suffix⟩ := parts
      simp only [bind, Except.bind, lookup_cpuScales]
      cases cpuPlaces? suffix with
      | none => rfl
      | some places => cases places <;> rfl

theorem wholeBytes_eq (text : String) : wholeBytes text = measure memoryScales text := by
  rw [wholeBytes, bytes, measure]
  cases split text with
  | error => rfl
  | ok parts =>
      obtain ⟨number, suffix⟩ := parts
      simp only [bind, Except.bind, lookup_memoryScales]
      cases memoryFactor? suffix with
      | none => rfl
      | some factor => rfl

/-- The first number that is too large for an amount. -/
def amountLimit : Binary64 := .ofNat (Nat.pow 2 64)

/-- There is a whole amount for a number without a minus sign exactly when it is below the
limit. -/
theorem isSome_ceilWhole? {number : Binary64} (isUnsigned : number.IsUnsigned) :
    (ceilWhole? number).isSome = number.lt amountLimit := by
  have limitWhole : amountLimit.IsWhole (Nat.pow 2 64) := by decide +kernel
  cases isUnsigned with
  | overflow =>
      rename_i units isMagnitude
      rw [Bool.eq_iff_iff, Binary64.lt_iff_of_position (Binary64.position_finite ..) limitWhole.2,
        Int.ofNat_lt, ceilWhole?, if_neg (by simp)]
      split <;> simp [*]
  | infinite => decide +kernel

/-- The scales of a list keep numbers free of a minus sign. -/
def AreUnsigned (scales : List (String × Scale)) : Prop :=
  ∀ suffix scale, scales.lookup suffix = some scale →
    ∀ number : Binary64, number.IsUnsigned → (scale number).IsUnsigned

theorem areUnsigned_cpuScales : AreUnsigned cpuScales := by
  intro suffix scale found number isUnsigned
  have millicores : ∀ {cores : Binary64}, cores.IsUnsigned → (coresIn 3 cores).IsUnsigned := by
    intro cores isUnsigned
    rw [coresIn_three]
    exact isUnsigned.mul (Binary64.isFinite_ofNat (by decide)) (Binary64.zero_lt_ofNat (by decide))
  have mem : (suffix, scale) ∈ cpuScales := (lookup_eq_some_iff_mem (by decide)).mp found
  simp only [cpuScales, List.mem_cons, List.not_mem_nil, or_false, Prod.mk.injEq] at mem
  rcases mem with ⟨-, rfl⟩ | ⟨-, rfl⟩ | ⟨-, rfl⟩ | ⟨-, rfl⟩
  · exact millicores isUnsigned
  all_goals exact millicores (isUnsigned.mul (by decide +kernel) (by decide +kernel))

theorem areUnsigned_memoryScales : AreUnsigned memoryScales := by
  intro suffix scale found number isUnsigned
  rw [memoryScales, lookup_map_value, Option.map_eq_some_iff] at found
  obtain ⟨factor, known, rfl⟩ := found
  have mem : (suffix, factor) ∈ memoryUnits := (lookup_eq_some_iff_mem (by decide)).mp known
  have bounds : ∀ unit ∈ memoryUnits, 0 < unit.2 ∧ unit.2 < Nat.pow 2 64 := by decide
  obtain ⟨positive, lt⟩ := bounds _ mem
  exact isUnsigned.mul (Binary64.isFinite_ofNat lt) (Binary64.zero_lt_ofNat positive)

/-- When each answer is given for a text. -/
structure FollowsGrammar (scales : List (String × Scale)) (text : String)
    (answer : Except QuantityError Nat) : Prop where
  ok : (∃ amount, answer = .ok amount) ↔
    ∃ spelling : Spelling text, spelling.number.isFinite = true ∧
      ∃ scale, scales.lookup spelling.suffixText = some scale ∧
        (scale spelling.number).lt amountLimit = true
  malformed : answer = .error (.malformed text) ↔ ¬ Nonempty (Spelling text)
  outOfRange : answer = .error (.outOfRange text) ↔
    ∃ spelling : Spelling text, spelling.number.isFinite = false ∨
      ∃ scale, scales.lookup spelling.suffixText = some scale ∧
        (scale spelling.number).lt amountLimit = false
  unknownSuffix (suffix : String) : answer = .error (.unknownSuffix suffix) ↔
    ∃ spelling : Spelling text, spelling.number.isFinite = true ∧
      spelling.suffixText = suffix ∧ scales.lookup suffix = none

theorem measure_of_spelling (scales : List (String × Scale)) {text : String}
    (spelling : Spelling text) :
    measure scales text =
      if spelling.number.isFinite then
        match scales.lookup spelling.suffixText with
        | none => .error (.unknownSuffix spelling.suffixText)
        | some scale =>
            match ceilWhole? (scale spelling.number) with
            | some amount => .ok amount
            | none => .error (.outOfRange text)
      else .error (.outOfRange text) := by
  rw [measure, spelling.split_eq]
  split <;> rfl

section Answers

variable {scales : List (String × Scale)} {text : String} (spelling : Spelling text)

private theorem followsGrammar_of_infinite (infinite : spelling.number.isFinite = false) :
    FollowsGrammar scales text (measure scales text) := by
  have nonempty : Nonempty (Spelling text) := ⟨spelling⟩
  have answer := measure_of_spelling scales spelling
  rw [infinite, if_neg Bool.false_ne_true] at answer
  constructor <;> simp [answer, spelling.exists_iff, infinite, nonempty]

private theorem followsGrammar_of_unknown (finite : spelling.number.isFinite = true)
    (unknown : scales.lookup spelling.suffixText = none) :
    FollowsGrammar scales text (measure scales text) := by
  have nonempty : Nonempty (Spelling text) := ⟨spelling⟩
  have answer := measure_of_spelling scales spelling
  rw [finite, if_pos rfl] at answer
  simp only [unknown] at answer
  constructor
  case unknownSuffix =>
    intro suffix
    rw [answer, spelling.exists_iff]
    constructor
    · rintro ⟨⟩
      exact ⟨finite, rfl, unknown⟩
    · rintro ⟨-, rfl, -⟩
      rfl
  all_goals simp [answer, spelling.exists_iff, finite, unknown, nonempty]

private theorem followsGrammar_of_known {scale : Scale} (finite : spelling.number.isFinite = true)
    (known : scales.lookup spelling.suffixText = some scale)
    (isUnsigned : (scale spelling.number).IsUnsigned) :
    FollowsGrammar scales text (measure scales text) := by
  have nonempty : Nonempty (Spelling text) := ⟨spelling⟩
  have answer := measure_of_spelling scales spelling
  rw [finite, if_pos rfl] at answer
  simp only [known] at answer
  have small := isSome_ceilWhole? isUnsigned
  have notUnknown (suffix : String) : ¬ (spelling.number.isFinite = true ∧
      spelling.suffixText = suffix ∧ scales.lookup suffix = none) := by
    rintro ⟨-, rfl, unknown⟩
    exact Option.some_ne_none _ (known.symm.trans unknown)
  cases whole : ceilWhole? (scale spelling.number) <;> rw [whole] at small answer
  all_goals
    constructor
    case unknownSuffix =>
      intro suffix
      rw [answer, spelling.exists_iff]
      exact iff_of_false (by simp) (notUnknown suffix)
    all_goals simp [answer, spelling.exists_iff, finite, known, ← small, nonempty]

private theorem followsGrammar_of_not_nonempty (outside : ¬ Nonempty (Spelling text)) :
    FollowsGrammar scales text (measure scales text) := by
  have answer : measure scales text = .error (.malformed text) := by
    rw [measure, split_of_not_nonempty outside]
    rfl
  have none : ∀ p : Spelling text → Prop, ¬ ∃ spelling, p spelling :=
    fun p ⟨spelling, _⟩ => outside ⟨spelling⟩
  constructor <;> simp [answer, outside, none]

end Answers

theorem followsGrammar_measure {scales : List (String × Scale)} (areUnsigned : AreUnsigned scales)
    (text : String) : FollowsGrammar scales text (measure scales text) := by
  by_cases spelled : Nonempty (Spelling text)
  case neg => exact followsGrammar_of_not_nonempty spelled
  case pos =>
    obtain ⟨spelling⟩ := spelled
    cases finite : spelling.number.isFinite with
    | false => exact followsGrammar_of_infinite spelling finite
    | true =>
        cases known : scales.lookup spelling.suffixText with
        | none => exact followsGrammar_of_unknown spelling finite known
        | some scale =>
            exact followsGrammar_of_known spelling finite known
              (areUnsigned _ _ known _ spelling.isUnsigned)

/-- A text is spelled as a quantity in one way at most: a mark with digits after it begins the
exponent, and any other mark belongs to the suffix.  The text is split as it is spelled, when its
number is finite, and what is read of an amount follows from the parts.  A sign in front is always
refused. -/
theorem quantities_follow_grammar (text : String) :
    (∀ first second : Spelling text, first = second) ∧
    (∀ (spelling : Spelling text) (front rest : List Char) (mark : Char), IsMark mark →
      text.toList = front ++ mark :: rest →
      (DigitsFollow rest ∧ front = spelling.before ++ spelling.mantissa ∧
        spelling.exponent.head? = some mark) ∨
      (¬ DigitsFollow rest ∧ ∃ inner outer, spelling.suffix = inner ++ mark :: outer ∧
        front = spelling.before ++ (spelling.mantissa ++ (spelling.exponent ++ inner)))) ∧
    (∀ number suffix, split text = .ok (number, suffix) ↔
      ∃ spelling : Spelling text, spelling.number.isFinite = true ∧
        spelling.number = number ∧ spelling.suffixText = suffix) ∧
    FollowsGrammar cpuScales text (millicores text) ∧
    FollowsGrammar memoryScales text (wholeBytes text) ∧
    (∀ (blanks rest : List Char) (sign : Char), (∀ c ∈ blanks, isBlank c = true) →
      sign = '+' ∨ sign = '-' → text.toList = blanks ++ sign :: rest →
      millicores text = .error (.malformed text) ∧ wholeBytes text = .error (.malformed text)) := by
  have cpu : FollowsGrammar cpuScales text (millicores text) := by
    rw [millicores_eq]
    exact followsGrammar_measure areUnsigned_cpuScales text
  have memory : FollowsGrammar memoryScales text (wholeBytes text) := by
    rw [wholeBytes_eq]
    exact followsGrammar_measure areUnsigned_memoryScales text
  refine ⟨Spelling.eq, fun spelling _ _ _ => spelling.mark_cases, fun _ _ => split_eq_ok_iff,
    cpu, memory, ?_⟩
  intro blanks rest sign blank isSign text_eq
  have outside : ¬ Nonempty (Spelling text) :=
    fun ⟨spelling⟩ => spelling.not_sign blank isSign text_eq
  exact ⟨cpu.malformed.mpr outside, memory.malformed.mpr outside⟩

/-- Digits after the mark make it an exponent, so the suffix of `1E3m` is `m`, which memory does not
have; without them it is the suffix of exabytes. -/
theorem quantities_follow_grammar_at_mark :
    wholeBytes "1E3m" = .error (.unknownSuffix "m") ∧
      (∀ spelling : Spelling "1E", spelling.suffixText = "E") ∧
      millicores " +1" = .error (.malformed " +1") := by
  obtain ⟨-, -, -, -, memory, -⟩ := quantities_follow_grammar "1E3m"
  obtain ⟨unique, -⟩ := quantities_follow_grammar "1E"
  obtain ⟨-, -, -, -, -, signed⟩ := quantities_follow_grammar " +1"
  have blank : ∀ c ∈ [' '], isBlank c = true := by
    intro c mem
    rw [List.mem_singleton.mp mem]
    decide
  refine ⟨(memory.unknownSuffix "m").mpr ?_, ?_, (signed [' '] ['1'] '+' blank (.inl rfl) rfl).1⟩
  · have read : split? "1E3m" = some (⟨['1'], [], 3⟩, "m") := by decide +kernel
    obtain ⟨spelling, numeral, suffix⟩ := exists_spelling read
    refine ⟨spelling, ?_, suffix, by decide⟩
    rw [Spelling.number, numeral]
    decide +kernel
  · intro spelling
    have read : split? "1E" = some (⟨['1'], [], 0⟩, "E") := by decide +kernel
    obtain ⟨other, -, suffix⟩ := exists_spelling read
    rw [unique spelling other, suffix]

end PodSizing.Quantity
