import PodSizing.Configuration.Environment
import PodSizing.Proofs.Numeral

/-!
# Values that read as literals

The value of a variable is a literal if it is a flag, the name of a number or a numeral:
`IsLiteral` is the grammar of these texts, and `literal?` finds a literal in them and in no others.
No literal holds a comma, and of the names of namespaces five words and the numerals without a
point are literals.
-/

namespace PodSizing

namespace Numeral

/-- The words for numbers that have no digits. -/
def specialWords : List String := ["inf", "infinity", "nan"]

/-- The texts that are a number after a sign that may be there. -/
inductive IsUnsignedNumber : List Char → Prop
  | special {text : List Char}
      (word : String.ofList (text.map Char.toLower) ∈ specialWords) : IsUnsignedNumber text
  | numeral {mantissa whole fraction exponent : List Char} {power : Int}
      (isMantissa : IsMantissa mantissa whole fraction) (isExponent : IsExponent exponent power) :
      IsUnsignedNumber (mantissa ++ exponent)

theorem isSome_ofText?_iff {text : String} :
    (Binary64.ofText? text).isSome = true ↔ IsUnsignedNumber (splitSign text.toList).2 := by
  obtain ⟨⟨negative, unsigned⟩, sign_eq⟩ : ∃ parts, splitSign text.toList = parts := ⟨_, rfl⟩
  simp only [Binary64.ofText?, sign_eq]
  by_cases infinite : String.ofList (unsigned.map Char.toLower) = "inf" ∨
      String.ofList (unsigned.map Char.toLower) = "infinity"
  · rw [if_pos infinite]
    have word : String.ofList (unsigned.map Char.toLower) ∈ specialWords := by
      rcases infinite with word | word <;> simp [specialWords, word]
    exact ⟨fun _ => .special word, fun _ => rfl⟩
  · rw [if_neg infinite]
    by_cases undefined : String.ofList (unsigned.map Char.toLower) = "nan"
    · rw [if_pos undefined]
      exact ⟨fun _ => .special (by simp [specialWords, undefined]), fun _ => rfl⟩
    · rw [if_neg undefined]
      constructor
      · intro found
        split at found
        · rename_i numeral scanned
          obtain ⟨mantissa, exponent, isMantissa, isExponent, rfl⟩ := exists_of_scan scanned
          rw [List.append_nil]
          exact .numeral isMantissa isExponent
        · contradiction
      · intro isNumber
        cases isNumber with
        | special word =>
            rw [not_or] at infinite
            simp [specialWords, infinite.1, infinite.2, undefined] at word
        | numeral isMantissa isExponent =>
            have letters : ∀ c ∈ ([] : List Char), c.isAlpha = true := by simp
            have scanned := scan_of_isMantissa isMantissa isExponent letters
            rw [List.append_nil] at scanned
            rw [scanned]
            rfl

/-- A whole number is a number. -/
theorem isUnsignedNumber_of_integer? {text : List Char} {value : Int}
    (whole : integer? text = some value) : IsUnsignedNumber (splitSign text).2 := by
  obtain ⟨⟨negative, digits⟩, sign_eq⟩ : ∃ parts, splitSign text = parts := ⟨_, rfl⟩
  simp only [integer?, sign_eq] at whole ⊢
  split at whole
  · contradiction
  · rename_i digits_ok
    have isDigits : IsDigits digits := by
      simp only [Bool.or_eq_true, List.isEmpty_iff, Bool.not_eq_true', not_or,
        Bool.not_eq_false] at digits_ok
      exact ⟨digits_ok.1, List.all_eq_true.mp digits_ok.2⟩
    rw [← List.append_nil digits]
    exact .numeral (.whole isDigits) .absent

/-- Letters, digits and signs stand in an exponent. -/
theorem IsExponent.isAlphanum_or_isSign {exponent : List Char} {power : Int}
    (isExponent : IsExponent exponent power) :
    ∀ c ∈ exponent, c.isAlphanum = true ∨ isSign c = true := by
  have ofMark {mark : Char} (isMark : IsMark mark) : mark.isAlphanum = true := by
    rw [Char.isAlphanum, isAlpha_of_isMark isMark, Bool.true_or]
  have ofDigit {digits : List Char} (isDigits : IsDigits digits) :
      ∀ c ∈ digits, c.isAlphanum = true := by
    intro c mem
    rw [Char.isAlphanum, isDigits.all c mem, Bool.or_true]
  intro c mem
  cases isExponent with
  | absent => contradiction
  | unsigned isMark isDigits =>
      rcases List.mem_cons.mp mem with rfl | digit
      · exact .inl (ofMark isMark)
      · exact .inl (ofDigit isDigits c digit)
  | plus isMark isDigits | minus isMark isDigits =>
      rcases List.mem_cons.mp mem with rfl | mem
      · exact .inl (ofMark isMark)
      · rcases List.mem_cons.mp mem with rfl | digit
        · exact .inr rfl
        · exact .inl (ofDigit isDigits c digit)

theorem IsUnsignedNumber.comma_not_mem {text : List Char} (isNumber : IsUnsignedNumber text) :
    ',' ∉ text := by
  intro mem
  cases isNumber with
  | special word =>
      have noComma : ∀ word ∈ specialWords, ',' ∉ word.toList := by decide
      apply noComma _ word
      rw [String.toList_ofList]
      exact List.mem_map_of_mem mem
  | numeral isMantissa isExponent =>
      rcases List.mem_append.mp mem with inMantissa | inExponent
      · exact absurd (isMantissa.isMantissaChar ',' inMantissa) (by decide)
      · rcases isExponent.isAlphanum_or_isSign ',' inExponent with letter | sign
        · exact absurd letter (by decide)
        · exact absurd sign (by decide)

theorem mem_splitSign {text : List Char} {c : Char} (notSign : isSign c = false)
    (mem : c ∈ text) : c ∈ (splitSign text).2 := by
  unfold splitSign
  split
  all_goals
    first
    | exact mem
    | rcases List.mem_cons.mp mem with rfl | rest
      · exact absurd notSign (by decide)
      · exact rest

end Numeral

namespace Configuration

open Numeral

/-- The texts of flags and numbers. -/
inductive IsLiteral : List Char → Prop
  | flag {text : List Char} (word : String.ofList (text.map Char.toLower) = "true" ∨
      String.ofList (text.map Char.toLower) = "false") : IsLiteral text
  | number {text : List Char} (isNumber : IsUnsignedNumber (splitSign text).2) : IsLiteral text

/-- A literal is found exactly in the texts of literals. -/
theorem isSome_literal?_iff {value : String} :
    (literal? value).isSome = true ↔ IsLiteral value.toList := by
  rw [literal?]
  by_cases yes : String.ofList (value.toList.map Char.toLower) = "true"
  · rw [if_pos yes]
    exact ⟨fun _ => .flag (.inl yes), fun _ => rfl⟩
  · rw [if_neg yes]
    by_cases no : String.ofList (value.toList.map Char.toLower) = "false"
    · rw [if_pos no]
      exact ⟨fun _ => .flag (.inr no), fun _ => rfl⟩
    · rw [if_neg no]
      have noFlag : IsLiteral value.toList ↔ IsUnsignedNumber (splitSign value.toList).2 := by
        constructor
        · intro isLiteral
          cases isLiteral with
          | flag word => exact absurd word (not_or.mpr ⟨yes, no⟩)
          | number isNumber => exact isNumber
        · exact .number
      rw [noFlag]
      split
      · rename_i integer found
        have whole := (Option.filter_eq_some_iff.mp found).1
        exact ⟨fun _ => isUnsignedNumber_of_integer? whole, fun _ => rfl⟩
      · rw [Option.isSome_map, isSome_ofText?_iff]

/-- A literal is a flag or a number. -/
theorem literal?_cases {value : String} {literal : Json} (found : literal? value = some literal) :
    (∃ flag, literal = .bool flag) ∨ ∃ number, literal = .number number := by
  simp only [literal?] at found
  split at found
  · exact .inl ⟨true, (Option.some.inj found).symm⟩
  · split at found
    · exact .inl ⟨false, (Option.some.inj found).symm⟩
    · split at found
      · exact .inr ⟨_, (Option.some.inj found).symm⟩
      · obtain ⟨real, -, rfl⟩ := Option.map_eq_some_iff.mp found
        exact .inr ⟨_, rfl⟩

/-- No literal holds a comma. -/
theorem IsLiteral.comma_not_mem {text : List Char} (isLiteral : IsLiteral text) : ',' ∉ text := by
  intro mem
  cases isLiteral with
  | flag word =>
      have comma : ',' ∈ (String.ofList (text.map Char.toLower)).toList := by
        rw [String.toList_ofList]
        exact List.mem_map_of_mem mem
      rcases word with word | word <;> rw [word] at comma <;> exact absurd comma (by decide)
  | number isNumber => exact isNumber.comma_not_mem (mem_splitSign (by decide) mem)

/-! ### Names of namespaces -/

/-- The characters at the ends of names. -/
def isNameEnd (c : Char) : Bool := c.isLower || c.isDigit

/-- The names that a namespace can have: no more than 63 small letters, digits and dashes, with no
dash at an end. -/
structure IsNamespaceName (name : String) : Prop where
  characters : (name.toList.all fun c => isNameEnd c || c == '-') = true
  first : name.toList.head?.any isNameEnd = true
  last : name.toList.getLast?.any isNameEnd = true
  length : name.length ≤ 63

instance : DecidablePred IsNamespaceName := fun name =>
  decidable_of_iff ((name.toList.all fun c => isNameEnd c || c == '-') = true ∧
      name.toList.head?.any isNameEnd = true ∧ name.toList.getLast?.any isNameEnd = true ∧
      name.length ≤ 63)
    ⟨fun ⟨characters, first, last, length⟩ => ⟨characters, first, last, length⟩,
      fun ⟨characters, first, last, length⟩ => ⟨characters, first, last, length⟩⟩

/-- The names that are literals: two flags, three words for numbers, and digits, possibly with a
power of ten. -/
inductive ReadsAsLiteral : String → Prop
  | word {name : String} (isWord : name ∈ ["true", "false", "inf", "infinity", "nan"]) :
      ReadsAsLiteral name
  | numeral {name : String} {digits exponent : List Char} {power : Int}
      (isDigits : IsDigits digits) (isExponent : IsExponent exponent power)
      (spelled : name.toList = digits ++ exponent) : ReadsAsLiteral name

namespace IsNamespaceName

variable {name : String} (isName : IsNamespaceName name)

include isName

theorem isNameEnd_or_eq_dash {c : Char} (mem : c ∈ name.toList) :
    isNameEnd c = true ∨ c = '-' := by
  have inside := List.all_eq_true.mp isName.characters c mem
  rwa [Bool.or_eq_true, beq_iff_eq] at inside

theorem not_mem_of_outside {c : Char} (outside : isNameEnd c = false) (notDash : c ≠ '-') :
    c ∉ name.toList := by
  intro mem
  rcases isName.isNameEnd_or_eq_dash mem with inside | dash
  · rw [outside] at inside
    exact Bool.false_ne_true inside
  · exact notDash dash

/-- A name has no sign. -/
theorem splitSign_eq : splitSign name.toList = (false, name.toList) := by
  apply splitSign_of_startsOutside
  intro c mem
  have first := isName.first
  rw [Option.mem_def.mp mem, Option.any_some, isNameEnd, Bool.or_eq_true] at first
  apply isSign_of_isAlphanum
  rcases first with lower | digit
  · have isAlpha : c.isAlpha = true := by
      delta Char.isAlpha
      rw [lower, Bool.or_true]
    rw [Char.isAlphanum, isAlpha, Bool.true_or]
  · rw [Char.isAlphanum, digit, Bool.or_true]

/-- A name has no capital letters. -/
theorem map_toLower_eq : name.toList.map Char.toLower = name.toList := by
  apply (List.map_congr_left _).trans (List.map_id _)
  intro c mem
  apply dif_neg
  rintro ⟨afterA, beforeZ⟩
  have isCapital : 65 ≤ c.toNat ∧ c.toNat ≤ 90 := ⟨afterA, beforeZ⟩
  rcases isName.isNameEnd_or_eq_dash mem with inside | rfl
  · have small : c.isLower = true → 97 ≤ c.toNat := by
      delta Char.isLower
      simp only [Bool.and_eq_true, decide_eq_true_eq]
      exact And.left
    rw [isNameEnd, Bool.or_eq_true, Text.isDigit_iff] at inside
    rcases inside with isLower | isDigit
    · have := small isLower
      omega
    · omega
  · exact absurd isCapital.1 (by decide)

/-- Of the names, exactly the words of literals and the numerals without a point or a sign at the
front are literals. -/
theorem isLiteral_iff : IsLiteral name.toList ↔ ReadsAsLiteral name := by
  have small : String.ofList (name.toList.map Char.toLower) = name := by
    rw [isName.map_toLower_eq, String.ofList_toList]
  have noPoint : '.' ∉ name.toList := isName.not_mem_of_outside (by decide) (by decide)
  constructor
  · intro isLiteral
    cases isLiteral with
    | flag word =>
        rw [small] at word
        rcases word with rfl | rfl <;> exact .word (by decide)
    | number isNumber =>
        rw [isName.splitSign_eq] at isNumber
        generalize spelled : name.toList = text at isNumber noPoint small
        cases isNumber with
        | special word =>
            rw [small] at word
            exact .word (List.mem_cons_of_mem _ (List.mem_cons_of_mem _ word))
        | numeral isMantissa isExponent =>
            cases isMantissa with
            | whole isDigits => exact .numeral isDigits isExponent spelled
            | point | bare => simp at noPoint
  · intro readsAsLiteral
    cases readsAsLiteral with
    | word isWord =>
        by_cases isFlag : name = "true" ∨ name = "false"
        · exact .flag (by rwa [small])
        · rw [not_or] at isFlag
          have special : name ∈ specialWords := by
            simpa [specialWords, isFlag.1, isFlag.2] using isWord
          apply IsLiteral.number
          rw [isName.splitSign_eq]
          exact .special (by rwa [small])
    | numeral isDigits isExponent spelled =>
        apply IsLiteral.number
        rw [isName.splitSign_eq, spelled]
        exact .numeral (.whole isDigits) isExponent

end IsNamespaceName

end Configuration

end PodSizing
