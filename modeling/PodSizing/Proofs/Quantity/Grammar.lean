import PodSizing.Proofs.Binary64.Monotone
import PodSizing.Proofs.Numeral
import PodSizing.Quantity

/-!
# The grammar of quantities

A quantity is a numeral and a run of letters, with blanks around them.  A text is read as a quantity
exactly when it can be cut into these parts, and there is never more than one way to do so.  Letters
may belong to the exponent or to the suffix: an `e` or `E` begins an exponent when digits follow it,
possibly with a sign, and belongs to the suffix otherwise.
-/

namespace PodSizing.Quantity

open Numeral (IsMantissa IsExponent IsMark DigitsFollow)
open Text (isBlank StartsOutside)

/-! ### Spellings -/

/-- The parts of a text that is a quantity: a mantissa, an exponent, letters, and blanks around
them. -/
structure Spelling (text : String) where
  before : List Char
  mantissa : List Char
  exponent : List Char
  suffix : List Char
  after : List Char
  /-- What the mantissa and the exponent say. -/
  numeral : Numeral
  text_eq : text.toList = before ++ ((mantissa ++ (exponent ++ suffix)) ++ after)
  before_blank : ∀ c ∈ before, isBlank c = true
  isMantissa : IsMantissa mantissa numeral.whole numeral.fraction
  isExponent : IsExponent exponent numeral.exponent
  letters : ∀ c ∈ suffix, c.isAlpha = true
  after_blank : ∀ c ∈ after, isBlank c = true

namespace Spelling

variable {text : String}

/-- The number nearest to the numeral. -/
def number (spelling : Spelling text) : Binary64 := spelling.numeral.toBinary64 false

theorem isUnsigned (spelling : Spelling text) : spelling.number.IsUnsigned :=
  Binary64.isUnsigned_ofDecimal ..

/-- The suffix as the tables of units have it. -/
def suffixText (spelling : Spelling text) : String := String.ofList spelling.suffix

/-- No blanks stand within a quantity. -/
theorem not_blank (spelling : Spelling text) :
    ∀ c ∈ spelling.mantissa ++ (spelling.exponent ++ spelling.suffix), isBlank c = false := by
  intro c mem
  rcases List.mem_append.mp mem with inMantissa | mem
  · exact Numeral.isBlank_of_isMantissaChar (spelling.isMantissa.isMantissaChar c inMantissa)
  · rcases List.mem_append.mp mem with inExponent | inSuffix
    · exact spelling.isExponent.not_blank c inExponent
    · apply Text.isBlank_of_isAlphanum
      rw [Char.isAlphanum, spelling.letters c inSuffix, Bool.true_or]

theorem trim_eq (spelling : Spelling text) :
    Text.trim text.toList = spelling.mantissa ++ (spelling.exponent ++ spelling.suffix) := by
  rw [spelling.text_eq]
  exact Text.trim_append spelling.before_blank spelling.not_blank spelling.after_blank

/-- A text is read as it is spelled. -/
theorem split?_eq (spelling : Spelling text) :
    split? text = some (spelling.numeral, spelling.suffixText) := by
  have scanned :=
    Numeral.scan_of_isMantissa spelling.isMantissa spelling.isExponent spelling.letters
  have letters : spelling.suffix.all Char.isAlpha = true := List.all_eq_true.mpr spelling.letters
  simp only [split?, spelling.trim_eq, scanned, letters, if_true, suffixText]

theorem split_eq (spelling : Spelling text) :
    split text =
      if spelling.number.isFinite then .ok (spelling.number, spelling.suffixText)
      else .error (.outOfRange text) := by
  rw [split, spelling.split?_eq]
  rfl

/-- What follows the blanks at the front is no blank. -/
theorem startsOutside (spelling : Spelling text) :
    StartsOutside isBlank
      ((spelling.mantissa ++ (spelling.exponent ++ spelling.suffix)) ++ spelling.after) := by
  obtain ⟨first, others, mantissa_eq⟩ := List.exists_cons_of_ne_nil spelling.isMantissa.ne_nil
  intro c mem
  rw [mantissa_eq] at mem
  obtain rfl : first = c := Option.some.inj mem
  exact spelling.not_blank first (by simp [mantissa_eq])

/-- A text is spelled in one way only. -/
protected theorem eq (first second : Spelling text) : first = second := by
  obtain ⟨mantissa_eq, exponent_eq, suffix_eq⟩ :=
    Numeral.cut_inj first.isMantissa first.isExponent first.letters second.isMantissa
      second.isExponent second.letters (first.trim_eq.symm.trans second.trim_eq)
  obtain ⟨before_eq, rest_eq⟩ :=
    Text.run_inj first.before_blank second.before_blank first.startsOutside second.startsOutside
      (first.text_eq.symm.trans second.text_eq)
  rw [mantissa_eq, exponent_eq, suffix_eq] at rest_eq
  have after_eq := List.append_cancel_left rest_eq
  have numeral_eq : first.numeral = second.numeral :=
    (Prod.mk.inj (Option.some.inj (first.split?_eq.symm.trans second.split?_eq))).1
  cases first
  cases second
  simp only at mantissa_eq exponent_eq suffix_eq before_eq after_eq numeral_eq
  subst mantissa_eq exponent_eq suffix_eq before_eq after_eq numeral_eq
  rfl

/-- Marks stand in the exponent and in the suffix only. -/
private theorem mark_not_mem (spelling : Spelling text) {mark : Char} (isMark : IsMark mark) :
    mark ∉ spelling.before ∧ mark ∉ spelling.mantissa ∧ mark ∉ spelling.after := by
  have isAlpha := Numeral.isAlpha_of_isMark isMark
  have notBlank : isBlank mark = false :=
    Text.isBlank_of_isAlphanum (by rw [Char.isAlphanum, isAlpha, Bool.true_or])
  refine ⟨?_, ?_, ?_⟩
  · intro mem
    exact Bool.false_ne_true (notBlank.symm.trans (spelling.before_blank mark mem))
  · intro mem
    have outside := Numeral.isMantissaChar_of_isAlpha isAlpha
    exact Bool.false_ne_true (outside.symm.trans (spelling.isMantissa.isMantissaChar mark mem))
  · intro mem
    exact Bool.false_ne_true (notBlank.symm.trans (spelling.after_blank mark mem))

/-- Past the exponent only letters and blanks are left. -/
private theorem mark_in_suffix (spelling : Spelling text) {inner rest : List Char} {mark : Char}
    (isMark : IsMark mark)
    (at_mark : spelling.suffix ++ spelling.after = inner ++ mark :: rest) :
    ¬ DigitsFollow rest ∧ ∃ outer, spelling.suffix = inner ++ mark :: outer := by
  obtain ⟨-, -, notAfter⟩ := spelling.mark_not_mem isMark
  rcases List.append_eq_append_iff.mp at_mark with ⟨more, -, after_eq⟩ | ⟨more, suffix_eq, rest_eq⟩
  · exact absurd (by simp [after_eq]) notAfter
  · cases more with
    | nil =>
        rw [List.nil_append] at rest_eq
        exact absurd (by simp [← rest_eq]) notAfter
    | cons first outer =>
        obtain ⟨rfl, rfl⟩ := List.cons.inj rest_eq
        refine ⟨Numeral.not_digitsFollow ?_, outer, suffix_eq⟩
        intro c mem
        rcases List.mem_append.mp mem with inOuter | inAfter
        · exact .inl (spelling.letters c (by simp [suffix_eq, inOuter]))
        · exact .inr (spelling.after_blank c inAfter)

/-- A mark with digits after it begins the exponent, and any other mark belongs to the suffix. -/
theorem mark_cases (spelling : Spelling text) {front rest : List Char} {mark : Char}
    (isMark : IsMark mark) (at_mark : text.toList = front ++ mark :: rest) :
    (DigitsFollow rest ∧ front = spelling.before ++ spelling.mantissa ∧
      spelling.exponent.head? = some mark) ∨
    (¬ DigitsFollow rest ∧ ∃ inner outer, spelling.suffix = inner ++ mark :: outer ∧
      front = spelling.before ++ (spelling.mantissa ++ (spelling.exponent ++ inner))) := by
  obtain ⟨notBefore, notMantissa, -⟩ := spelling.mark_not_mem isMark
  rw [spelling.text_eq, List.append_assoc, List.append_assoc] at at_mark
  obtain ⟨past, rfl, past_eq⟩ := Text.exists_of_not_mem notBefore at_mark
  obtain ⟨inner, rfl, inner_eq⟩ := Text.exists_of_not_mem notMantissa past_eq
  have isExponent := spelling.isExponent
  rcases isExponent.cases_mark with absent | ⟨first, body, exponent_eq, -, -, notLetters⟩
  · rw [absent, List.nil_append] at inner_eq
    obtain ⟨notDigits, outer, suffix_eq⟩ := spelling.mark_in_suffix isMark inner_eq
    exact .inr ⟨notDigits, inner, outer, suffix_eq, by rw [absent, List.nil_append]⟩
  · rw [exponent_eq] at inner_eq isExponent
    cases inner with
    | nil =>
        obtain ⟨rfl, rfl⟩ := List.cons.inj inner_eq
        exact .inl ⟨isExponent.digitsFollow, by rw [List.append_nil], by rw [exponent_eq]; rfl⟩
    | cons head inner =>
        obtain ⟨rfl, body_eq⟩ := List.cons.inj inner_eq
        have notBody : mark ∉ body := by
          intro mem
          have isAlpha := Numeral.isAlpha_of_isMark isMark
          exact Bool.false_ne_true ((notLetters mark mem).symm.trans isAlpha)
        obtain ⟨letters, rfl, letters_eq⟩ := Text.exists_of_not_mem notBody body_eq
        obtain ⟨notDigits, outer, suffix_eq⟩ := spelling.mark_in_suffix isMark letters_eq
        exact .inr ⟨notDigits, letters, outer, suffix_eq, by rw [exponent_eq]; rfl⟩

/-- No quantity begins with a sign. -/
theorem not_sign (spelling : Spelling text) {blanks rest : List Char} {sign : Char}
    (blank : ∀ c ∈ blanks, isBlank c = true) (isSign : sign = '+' ∨ sign = '-') :
    text.toList ≠ blanks ++ sign :: rest := by
  intro text_eq
  have signOutside : StartsOutside isBlank (sign :: rest) := by
    intro c mem
    obtain rfl : sign = c := Option.some.inj mem
    rcases isSign with rfl | rfl <;> decide
  obtain ⟨first, others, mantissa_eq⟩ := List.exists_cons_of_ne_nil spelling.isMantissa.ne_nil
  have inMantissa := spelling.isMantissa.isMantissaChar first (by simp [mantissa_eq])
  obtain ⟨-, rest_eq⟩ :=
    Text.run_inj spelling.before_blank blank spelling.startsOutside signOutside
      (spelling.text_eq.symm.trans text_eq)
  rw [mantissa_eq] at rest_eq
  obtain ⟨rfl, -⟩ := List.cons.inj rest_eq
  rcases isSign with rfl | rfl <;> exact absurd inMantissa (by decide)

theorem exists_iff (spelling : Spelling text) {p : Spelling text → Prop} :
    (∃ other, p other) ↔ p spelling := by
  constructor
  · rintro ⟨other, holds⟩
    rwa [spelling.eq other]
  · exact fun holds => ⟨spelling, holds⟩

end Spelling

/-- What is read as a quantity is spelled as one. -/
theorem exists_spelling {text : String} {numeral : Numeral} {suffix : String}
    (read : split? text = some (numeral, suffix)) :
    ∃ spelling : Spelling text, spelling.numeral = numeral ∧ spelling.suffixText = suffix := by
  unfold split? at read
  split at read
  · rename_i scannedNumeral letters scanned
    split at read
    case isFalse => contradiction
    case isTrue isSuffix =>
      cases read
      obtain ⟨mantissa, exponent, isMantissa, isExponent, trim_eq⟩ :=
        Numeral.exists_of_scan scanned
      obtain ⟨before, after, before_blank, after_blank, text_eq⟩ :=
        Text.exists_trim_eq text.toList
      rw [trim_eq] at text_eq
      exact ⟨⟨before, mantissa, exponent, letters, after, numeral, text_eq, before_blank,
        isMantissa, isExponent, List.all_eq_true.mp isSuffix, after_blank⟩, rfl, rfl⟩
  · contradiction

/-- A text is split as it is spelled, when its number is finite. -/
theorem split_eq_ok_iff {text : String} {number : Binary64} {suffix : String} :
    split text = .ok (number, suffix) ↔
      ∃ spelling : Spelling text, spelling.number.isFinite = true ∧
        spelling.number = number ∧ spelling.suffixText = suffix := by
  constructor
  · intro read
    cases parts : split? text with
    | none => simp [split, parts] at read
    | some read? =>
        obtain ⟨spelling, -, -⟩ := exists_spelling parts
        rw [spelling.split_eq] at read
        split at read
        case isTrue finite =>
          cases read
          exact ⟨spelling, finite, rfl, rfl⟩
        case isFalse => contradiction
  · rintro ⟨spelling, finite, rfl, rfl⟩
    rw [spelling.split_eq, if_pos finite]

/-- A text that is not spelled as a quantity is refused. -/
theorem split_of_not_nonempty {text : String} (outside : ¬ Nonempty (Spelling text)) :
    split text = .error (.malformed text) := by
  cases read : split? text with
  | none => simp only [split, read]
  | some parts =>
      obtain ⟨spelling, -, -⟩ := exists_spelling read
      exact absurd ⟨spelling⟩ outside

end PodSizing.Quantity
