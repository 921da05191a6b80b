import PodSizing.Numeral
import PodSizing.Proofs.Binary64
import PodSizing.Proofs.Text.Run

/-!
# The grammar of numerals

A numeral is a mantissa and possibly an exponent.  `Numeral.scan` reads exactly these: what it
takes from the front of a text is a numeral, and a numeral with letters after it is taken whole.
No letter stands in a mantissa and only the mark of an exponent in an exponent, so a text can be
cut into a mantissa, an exponent and letters in one way only.
-/

namespace PodSizing

namespace Text

/-- The codes of letters. -/
theorem isAlpha_iff {c : Char} :
    c.isAlpha = true ↔ (65 ≤ c.toNat ∧ c.toNat ≤ 90) ∨ (97 ≤ c.toNat ∧ c.toNat ≤ 122) := by
  delta Char.isAlpha Char.isUpper Char.isLower
  simp [UInt32.le_iff_toNat_le]

/-- The codes of digits. -/
theorem isDigit_iff {c : Char} : c.isDigit = true ↔ 48 ≤ c.toNat ∧ c.toNat ≤ 57 :=
  Char.isDigit_iff_toNat

theorem isDigit_of_isAlpha {c : Char} (isAlpha : c.isAlpha = true) : c.isDigit = false := by
  rw [isAlpha_iff] at isAlpha
  rw [← Bool.not_eq_true, isDigit_iff]
  omega

theorem isAlpha_of_isDigit {c : Char} (isDigit : c.isDigit = true) : c.isAlpha = false := by
  rw [isDigit_iff] at isDigit
  rw [← Bool.not_eq_true, isAlpha_iff]
  omega

theorem isBlank_of_isAlphanum {c : Char} (isAlphanum : c.isAlphanum = true) :
    isBlank c = false := by
  rw [Char.isAlphanum, Bool.or_eq_true, isAlpha_iff, isDigit_iff] at isAlphanum
  simp only [isBlank, Bool.or_eq_false_iff, Bool.and_eq_false_imp, decide_eq_true_eq,
    decide_eq_false_iff_not, beq_eq_false_iff_ne]
  omega

end Text

namespace Numeral

open Text (StartsOutside)

theorem digitsValue_toDigits (value : Nat) : digitsValue (Nat.toDigits 10 value) = value :=
  Nat.ofDigitChars_toDigits (by decide) (by decide)

/-- Zeros at the front do not count. -/
theorem digitsValue_zeros (count : Nat) (digits : List Char) :
    digitsValue (List.replicate count '0' ++ digits) = digitsValue digits := by
  induction count with
  | zero => rfl
  | succ count ih => exact ih

/-- Digits alone stand for the number nearest to their value. -/
theorem toBinary64_digits (digits : List Char) :
    toBinary64 ⟨digits, [], 0⟩ false = .ofNat (digitsValue digits) := by
  rw [toBinary64, List.append_nil]
  exact Binary64.ofDecimal_zero (digitsValue digits)

/-! ### Texts of numerals -/

/-- A run of at least one digit. -/
structure IsDigits (digits : List Char) : Prop where
  ne_nil : digits ≠ []
  all : ∀ c ∈ digits, c.isDigit = true

/-- The texts of mantissas, with the digits before and after the point. -/
inductive IsMantissa : List Char → List Char → List Char → Prop
  | whole {digits : List Char} (isDigits : IsDigits digits) : IsMantissa digits digits []
  | point {digits fraction : List Char} (isDigits : IsDigits digits)
      (fractionDigits : ∀ c ∈ fraction, c.isDigit = true) :
      IsMantissa (digits ++ '.' :: fraction) digits fraction
  | bare {fraction : List Char} (isDigits : IsDigits fraction) :
      IsMantissa ('.' :: fraction) [] fraction

/-- The marks of exponents. -/
def IsMark (mark : Char) : Prop := mark = 'e' ∨ mark = 'E'

/-- The texts of exponents, with their value. -/
inductive IsExponent : List Char → Int → Prop
  | absent : IsExponent [] 0
  | unsigned {mark : Char} {digits : List Char} (isMark : IsMark mark)
      (isDigits : IsDigits digits) : IsExponent (mark :: digits) (digitsValue digits)
  | plus {mark : Char} {digits : List Char} (isMark : IsMark mark)
      (isDigits : IsDigits digits) : IsExponent (mark :: '+' :: digits) (digitsValue digits)
  | minus {mark : Char} {digits : List Char} (isMark : IsMark mark)
      (isDigits : IsDigits digits) :
      IsExponent (mark :: '-' :: digits) (-(digitsValue digits : Int))

/-- The characters of mantissas. -/
def isMantissaChar (c : Char) : Bool := c.isDigit || c == '.'

variable {mantissa whole fraction exponent suffix rest text : List Char} {power : Int}

theorem isAlpha_of_isMark {mark : Char} (isMark : IsMark mark) : mark.isAlpha = true := by
  rcases isMark with rfl | rfl <;> decide

theorem IsMantissa.isMantissaChar (isMantissa : IsMantissa mantissa whole fraction) :
    ∀ c ∈ mantissa, Numeral.isMantissaChar c = true := by
  intro c mem
  have ofDigit : c.isDigit = true → Numeral.isMantissaChar c = true := by
    intro isDigit
    rw [Numeral.isMantissaChar, isDigit, Bool.true_or]
  cases isMantissa with
  | whole isDigits => exact ofDigit (isDigits.all c mem)
  | point isDigits fractionDigits =>
      rcases List.mem_append.mp mem with before | after
      · exact ofDigit (isDigits.all c before)
      · rcases List.mem_cons.mp after with rfl | after
        · rfl
        · exact ofDigit (fractionDigits c after)
  | bare isDigits =>
      rcases List.mem_cons.mp mem with rfl | after
      · rfl
      · exact ofDigit (isDigits.all c after)

theorem IsExponent.not_blank (isExponent : IsExponent exponent power) :
    ∀ c ∈ exponent, Text.isBlank c = false := by
  have ofMark : ∀ {mark : Char}, IsMark mark → Text.isBlank mark = false := by
    rintro mark (rfl | rfl) <;> decide
  have ofDigits : ∀ {digits : List Char}, IsDigits digits → ∀ c ∈ digits,
      Text.isBlank c = false := by
    intro digits isDigits c mem
    apply Text.isBlank_of_isAlphanum
    rw [Char.isAlphanum, isDigits.all c mem, Bool.or_true]
  intro c mem
  cases isExponent with
  | absent => contradiction
  | unsigned isMark isDigits =>
      rcases List.mem_cons.mp mem with rfl | digit
      · exact ofMark isMark
      · exact ofDigits isDigits c digit
  | plus isMark isDigits | minus isMark isDigits =>
      rcases List.mem_cons.mp mem with rfl | mem
      · exact ofMark isMark
      · rcases List.mem_cons.mp mem with rfl | digit
        · decide
        · exact ofDigits isDigits c digit

theorem IsMantissa.ne_nil (isMantissa : IsMantissa mantissa whole fraction) : mantissa ≠ [] := by
  cases isMantissa with
  | whole isDigits => exact isDigits.ne_nil
  | point | bare => simp

/-- An exponent that is there is its mark and characters that are not letters. -/
theorem IsExponent.cases_mark (isExponent : IsExponent exponent power) :
    exponent = [] ∨ ∃ mark body, exponent = mark :: body ∧ IsMark mark ∧ body ≠ [] ∧
      ∀ c ∈ body, c.isAlpha = false := by
  have ofDigits : ∀ {digits : List Char}, IsDigits digits → ∀ c ∈ digits, c.isAlpha = false :=
    fun isDigits c mem => Text.isAlpha_of_isDigit (isDigits.all c mem)
  cases isExponent with
  | absent => exact .inl rfl
  | unsigned isMark isDigits => exact .inr ⟨_, _, rfl, isMark, isDigits.ne_nil, ofDigits isDigits⟩
  | plus isMark isDigits | minus isMark isDigits =>
      refine .inr ⟨_, _, rfl, isMark, by simp, ?_⟩
      intro c mem
      rcases List.mem_cons.mp mem with rfl | digit
      · decide
      · exact ofDigits isDigits c digit

theorem isMantissaChar_of_isAlpha {c : Char} (isAlpha : c.isAlpha = true) :
    isMantissaChar c = false := by
  have notPoint : c ≠ '.' := by
    rintro rfl
    exact absurd isAlpha (by decide)
  simp [isMantissaChar, Text.isDigit_of_isAlpha isAlpha, notPoint]

theorem isBlank_of_isMantissaChar {c : Char} (inMantissa : isMantissaChar c = true) :
    Text.isBlank c = false := by
  rcases Bool.or_eq_true_iff.mp inMantissa with isDigit | isPoint
  · apply Text.isBlank_of_isAlphanum
    rw [Char.isAlphanum, isDigit, Bool.or_true]
  · obtain rfl : c = '.' := eq_of_beq isPoint
    decide

/-- What stands after a mantissa does not go on with it. -/
theorem startsOutside_exponent (isExponent : IsExponent exponent power)
    (letters : ∀ c ∈ suffix, c.isAlpha = true) :
    StartsOutside isMantissaChar (exponent ++ suffix) := by
  intro c mem
  apply isMantissaChar_of_isAlpha
  rcases isExponent.cases_mark with rfl | ⟨mark, body, rfl, isMark, -, -⟩
  · exact letters c (List.mem_of_mem_head? mem)
  · obtain rfl : mark = c := Option.some.inj mem
    exact isAlpha_of_isMark isMark

/-! ### Reading a numeral -/

/-- The digits of a mantissa are taken, and its point with them. -/
private theorem scanFraction_of_isMantissa (isMantissa : IsMantissa mantissa whole fraction)
    (stop : StartsOutside isMantissaChar rest) :
    (mantissa ++ rest).takeWhile Char.isDigit = whole ∧
      scanFraction ((mantissa ++ rest).dropWhile Char.isDigit) = (fraction, rest) ∧
      (whole.isEmpty && fraction.isEmpty) = false := by
  have digitStop : StartsOutside Char.isDigit rest :=
    fun c mem => (Bool.or_eq_false_iff.mp (stop c mem)).1
  have pointStop : ∀ other, rest ≠ '.' :: other := by
    rintro other rfl
    exact absurd (stop '.' rfl) (by decide)
  cases isMantissa with
  | whole isDigits =>
      obtain ⟨taken, left⟩ := Text.takeWhile_run isDigits.all digitStop
      rw [left]
      refine ⟨taken, ?_, by simp [isDigits.ne_nil]⟩
      unfold scanFraction
      split
      · exact absurd rfl (pointStop _)
      · rfl
  | point isDigits fractionDigits =>
      have pointOutside : StartsOutside Char.isDigit ('.' :: (fraction ++ rest)) := by
        intro c mem
        obtain rfl : '.' = c := Option.some.inj mem
        decide
      obtain ⟨taken, left⟩ := Text.takeWhile_run isDigits.all pointOutside
      obtain ⟨fractionTaken, fractionLeft⟩ := Text.takeWhile_run fractionDigits digitStop
      rw [List.append_assoc, List.cons_append, left, scanFraction, fractionTaken, fractionLeft]
      exact ⟨taken, rfl, by simp [isDigits.ne_nil]⟩
  | bare isDigits =>
      obtain ⟨fractionTaken, fractionLeft⟩ := Text.takeWhile_run isDigits.all digitStop
      rw [List.cons_append, List.takeWhile_cons_of_neg (by decide),
        List.dropWhile_cons_of_neg (by decide), scanFraction, fractionTaken, fractionLeft]
      exact ⟨rfl, rfl, by simp [isDigits.ne_nil]⟩

/-- The signs of exponents. -/
def isSign (c : Char) : Bool := c == '-' || c == '+'

theorem isSign_of_isAlphanum {c : Char} (isAlphanum : c.isAlphanum = true) :
    isSign c = false := by
  cases sign : isSign c with
  | false => rfl
  | true =>
      have either : c = '-' ∨ c = '+' := by simpa [isSign] using sign
      rcases either with rfl | rfl <;> exact absurd isAlphanum (by decide)

theorem splitSign_of_startsOutside (stop : StartsOutside isSign text) :
    splitSign text = (false, text) := by
  unfold splitSign
  split
  · exact absurd (stop '-' rfl) (by decide)
  · exact absurd (stop '+' rfl) (by decide)
  · rfl

private theorem splitSign_of_isDigits {digits : List Char} (isDigits : IsDigits digits) :
    splitSign (digits ++ rest) = (false, digits ++ rest) := by
  apply splitSign_of_startsOutside
  cases digits with
  | nil => exact absurd rfl isDigits.ne_nil
  | cons first digits =>
      intro c mem
      obtain rfl : first = c := Option.some.inj mem
      apply isSign_of_isAlphanum
      rw [Char.isAlphanum, isDigits.all first List.mem_cons_self, Bool.or_true]

/-- Letters are no exponent. -/
private theorem scanExponent?_of_letters (letters : ∀ c ∈ suffix, c.isAlpha = true) :
    scanExponent? suffix = none := by
  cases suffix with
  | nil => rfl
  | cons mark others =>
      have otherLetters : ∀ c ∈ others, c.isAlpha = true :=
        fun c mem => letters c (List.mem_cons_of_mem mark mem)
      have unsigned : splitSign others = (false, others) :=
        splitSign_of_startsOutside (Text.startsOutside_of_forall fun c mem =>
          isSign_of_isAlphanum (by rw [Char.isAlphanum, otherLetters c mem, Bool.true_or]))
      have nothing : ∀ c ∈ ([] : List Char), c.isDigit = true := by simp
      have noDigits : others.takeWhile Char.isDigit = [] :=
        (Text.takeWhile_run nothing (Text.startsOutside_of_forall fun c mem =>
          Text.isDigit_of_isAlpha (otherLetters c mem))).1
      simp [scanExponent?, unsigned, noDigits]

/-- An exponent with letters after it is taken up to them. -/
private theorem scanExponent?_of_isExponent (isExponent : IsExponent exponent power)
    (present : exponent ≠ []) (letters : ∀ c ∈ suffix, c.isAlpha = true) :
    scanExponent? (exponent ++ suffix) = some (power, suffix) := by
  have digitStop : StartsOutside Char.isDigit suffix :=
    Text.startsOutside_of_forall fun c mem => Text.isDigit_of_isAlpha (letters c mem)
  cases isExponent with
  | absent => exact absurd rfl present
  | unsigned isMark isDigits =>
      obtain ⟨taken, left⟩ := Text.takeWhile_run isDigits.all digitStop
      have marked : _ = 'e' ∨ _ = 'E' := isMark
      simp [scanExponent?, marked, splitSign_of_isDigits isDigits, taken, left, isDigits.ne_nil]
  | plus isMark isDigits =>
      obtain ⟨taken, left⟩ := Text.takeWhile_run isDigits.all digitStop
      have marked : _ = 'e' ∨ _ = 'E' := isMark
      simp [scanExponent?, marked, splitSign, taken, left, isDigits.ne_nil]
  | minus isMark isDigits =>
      obtain ⟨taken, left⟩ := Text.takeWhile_run isDigits.all digitStop
      have marked : _ = 'e' ∨ _ = 'E' := isMark
      simp [scanExponent?, marked, splitSign, taken, left, isDigits.ne_nil]

/-- A numeral with letters after it is taken whole. -/
theorem scan_of_isMantissa (isMantissa : IsMantissa mantissa whole fraction)
    (isExponent : IsExponent exponent power) (letters : ∀ c ∈ suffix, c.isAlpha = true) :
    scan (mantissa ++ (exponent ++ suffix)) = some (⟨whole, fraction, power⟩, suffix) := by
  obtain ⟨taken, left, some_digit⟩ :=
    scanFraction_of_isMantissa isMantissa (startsOutside_exponent isExponent letters)
  by_cases present : exponent = []
  · subst present
    cases isExponent
    rw [List.nil_append] at taken left ⊢
    simp [scan, taken, left, some_digit, scanExponent?_of_letters letters]
  · simp [scan, taken, left, some_digit, scanExponent?_of_isExponent isExponent present letters]

/-! ### What has been read -/

/-- Digits, and what is taken after them as a fraction, are a mantissa. -/
private theorem exists_mantissa (wholeDigits : ∀ c ∈ whole, c.isDigit = true)
    (scanned : scanFraction text = (fraction, rest))
    (some_digit : (whole.isEmpty && fraction.isEmpty) = false) :
    ∃ mantissa, IsMantissa mantissa whole fraction ∧ whole ++ text = mantissa ++ rest := by
  unfold scanFraction at scanned
  split at scanned
  · rename_i others
    cases scanned
    have digits : ∀ c ∈ others.takeWhile Char.isDigit, c.isDigit = true :=
      List.all_eq_true.mp List.all_takeWhile
    have split : others.takeWhile Char.isDigit ++ others.dropWhile Char.isDigit = others :=
      List.takeWhile_append_dropWhile
    by_cases empty : whole = []
    · subst empty
      refine ⟨_, .bare ⟨?_, digits⟩, by rw [List.nil_append, List.cons_append, split]⟩
      simpa using some_digit
    · exact ⟨_, .point ⟨empty, wholeDigits⟩ digits, by
        rw [List.append_assoc, List.cons_append, split]⟩
  · cases scanned
    have nonempty : whole ≠ [] := by simpa using some_digit
    exact ⟨_, .whole ⟨nonempty, wholeDigits⟩, rfl⟩

/-- What is taken as an exponent is one. -/
private theorem exists_exponent (scanned : scanExponent? text = some (power, rest)) :
    ∃ exponent, IsExponent exponent power ∧ text = exponent ++ rest := by
  cases text with
  | nil => contradiction
  | cons mark others =>
      simp only [scanExponent?] at scanned
      split at scanned
      case isFalse => contradiction
      case isTrue isMark =>
        split at scanned
        case isTrue => contradiction
        case isFalse some_digit =>
          cases scanned
          have isDigits : IsDigits ((splitSign others).2.takeWhile Char.isDigit) :=
            ⟨by simpa using some_digit, List.all_eq_true.mp List.all_takeWhile⟩
          have split : (splitSign others).2 = (splitSign others).2.takeWhile Char.isDigit ++
              (splitSign others).2.dropWhile Char.isDigit :=
            List.takeWhile_append_dropWhile.symm
          generalize (splitSign others).2.takeWhile Char.isDigit = digits at isDigits split ⊢
          generalize (splitSign others).2.dropWhile Char.isDigit = rest at split ⊢
          unfold splitSign at split ⊢
          split at split
          · exact ⟨_, .minus isMark isDigits, congrArg (mark :: '-' :: ·) split⟩
          · exact ⟨_, .plus isMark isDigits, congrArg (mark :: '+' :: ·) split⟩
          · exact ⟨_, .unsigned isMark isDigits, congrArg (mark :: ·) split⟩

/-- What is taken from the front of a text is a numeral. -/
theorem exists_of_scan {numeral : Numeral} (scanned : scan text = some (numeral, rest)) :
    ∃ mantissa exponent, IsMantissa mantissa numeral.whole numeral.fraction ∧
      IsExponent exponent numeral.exponent ∧ text = mantissa ++ (exponent ++ rest) := by
  have digits : ∀ c ∈ text.takeWhile Char.isDigit, c.isDigit = true :=
    List.all_eq_true.mp List.all_takeWhile
  have split : text.takeWhile Char.isDigit ++ text.dropWhile Char.isDigit = text :=
    List.takeWhile_append_dropWhile
  unfold scan at scanned
  obtain ⟨⟨fraction, left⟩, fraction_eq⟩ :
      ∃ taken, scanFraction (text.dropWhile Char.isDigit) = taken := ⟨_, rfl⟩
  simp only [fraction_eq] at scanned
  split at scanned
  case isTrue => contradiction
  case isFalse some_digit =>
    obtain ⟨mantissa, isMantissa, mantissa_eq⟩ :=
      exists_mantissa digits fraction_eq (Bool.eq_false_iff.mpr some_digit)
    rw [split] at mantissa_eq
    split at scanned
    · rename_i power after exponent_eq
      cases scanned
      obtain ⟨exponent, isExponent, left_eq⟩ := exists_exponent exponent_eq
      exact ⟨mantissa, exponent, isMantissa, isExponent, left_eq ▸ mantissa_eq⟩
    · cases scanned
      exact ⟨mantissa, [], isMantissa, .absent, mantissa_eq⟩

/-! ### What follows a mark -/

/-- Digits stand at the front, possibly with a sign. -/
def DigitsFollow (rest : List Char) : Prop :=
  ∃ sign digit others, sign ∈ [[], ['+'], ['-']] ∧ digit.isDigit = true ∧
    rest = sign ++ digit :: others

theorem IsDigits.digitsFollow {digits : List Char} (isDigits : IsDigits digits)
    (sign : List Char) (isSign : sign ∈ [[], ['+'], ['-']]) :
    DigitsFollow (sign ++ (digits ++ rest)) := by
  obtain ⟨digit, others, rfl⟩ := List.exists_cons_of_ne_nil isDigits.ne_nil
  exact ⟨sign, digit, others ++ rest, isSign, isDigits.all digit List.mem_cons_self, rfl⟩

theorem IsExponent.digitsFollow {mark : Char} {body : List Char}
    (isExponent : IsExponent (mark :: body) power) : DigitsFollow (body ++ rest) := by
  cases isExponent with
  | unsigned isMark isDigits => exact isDigits.digitsFollow [] (by simp)
  | plus isMark isDigits => exact isDigits.digitsFollow ['+'] (by simp)
  | minus isMark isDigits => exact isDigits.digitsFollow ['-'] (by simp)

/-- No digits follow where only letters and blanks are left. -/
theorem not_digitsFollow (outside : ∀ c ∈ rest, c.isAlpha = true ∨ Text.isBlank c = true) :
    ¬ DigitsFollow rest := by
  rintro ⟨sign, digit, others, isSign, isDigit, rfl⟩
  simp only [List.mem_cons, List.not_mem_nil, or_false] at isSign
  rcases isSign with rfl | rfl | rfl
  · rcases outside digit (by simp) with isAlpha | isBlank
    · rw [Text.isAlpha_of_isDigit isDigit] at isAlpha
      exact Bool.false_ne_true isAlpha
    · rw [Text.isBlank_of_isAlphanum (by rw [Char.isAlphanum, isDigit, Bool.or_true])] at isBlank
      exact Bool.false_ne_true isBlank
  · exact absurd (outside '+' (by simp)) (by decide)
  · exact absurd (outside '-' (by simp)) (by decide)

/-! ### One way to cut a text -/

/-- Letters do not begin with an exponent. -/
private theorem not_letters_of_exponent {mark : Char} {body : List Char} (ne_nil : body ≠ [])
    (others : ∀ c ∈ body, c.isAlpha = false) :
    ¬ ∀ c ∈ mark :: body ++ suffix, c.isAlpha = true := by
  intro letters
  cases body with
  | nil => exact ne_nil rfl
  | cons c body =>
      have letter : c.isAlpha = true := letters c (by simp)
      rw [others c List.mem_cons_self] at letter
      exact Bool.false_ne_true letter

private theorem exponent_inj {other otherSuffix : List Char} {otherPower : Int}
    (isExponent : IsExponent exponent power) (otherIsExponent : IsExponent other otherPower)
    (letters : ∀ c ∈ suffix, c.isAlpha = true) (otherLetters : ∀ c ∈ otherSuffix, c.isAlpha = true)
    (same : exponent ++ suffix = other ++ otherSuffix) :
    exponent = other ∧ suffix = otherSuffix := by
  rcases isExponent.cases_mark with rfl | ⟨mark, body, rfl, -, ne_nil, notLetters⟩ <;>
    rcases otherIsExponent.cases_mark with rfl | ⟨otherMark, otherBody, rfl, -, otherNe, otherNot⟩
  · exact ⟨rfl, same⟩
  · rw [List.nil_append] at same
    exact absurd (same ▸ letters) (not_letters_of_exponent otherNe otherNot)
  · rw [List.nil_append] at same
    exact absurd (same ▸ otherLetters) (not_letters_of_exponent ne_nil notLetters)
  · obtain ⟨rfl, bodies⟩ := List.cons.inj same
    have stop : ∀ {text : List Char}, (∀ c ∈ text, c.isAlpha = true) →
        StartsOutside (fun c => !c.isAlpha) text :=
      fun all => Text.startsOutside_of_forall fun c mem => by simp [all c mem]
    obtain ⟨rfl, rfl⟩ := Text.run_inj (p := fun c => !c.isAlpha)
      (fun c mem => by simp [notLetters c mem]) (fun c mem => by simp [otherNot c mem])
      (stop letters) (stop otherLetters) bodies
    exact ⟨rfl, rfl⟩

/-- A text is a mantissa, an exponent and letters in one way only. -/
theorem cut_inj {otherMantissa otherWhole otherFraction otherExponent otherSuffix : List Char}
    {otherPower : Int} (isMantissa : IsMantissa mantissa whole fraction)
    (isExponent : IsExponent exponent power) (letters : ∀ c ∈ suffix, c.isAlpha = true)
    (otherIsMantissa : IsMantissa otherMantissa otherWhole otherFraction)
    (otherIsExponent : IsExponent otherExponent otherPower)
    (otherLetters : ∀ c ∈ otherSuffix, c.isAlpha = true)
    (same : mantissa ++ (exponent ++ suffix) = otherMantissa ++ (otherExponent ++ otherSuffix)) :
    mantissa = otherMantissa ∧ exponent = otherExponent ∧ suffix = otherSuffix := by
  obtain ⟨mantissa_eq, rest_eq⟩ :=
    Text.run_inj isMantissa.isMantissaChar otherIsMantissa.isMantissaChar
      (startsOutside_exponent isExponent letters)
      (startsOutside_exponent otherIsExponent otherLetters) same
  exact ⟨mantissa_eq, exponent_inj isExponent otherIsExponent letters otherLetters rest_eq⟩

end Numeral

end PodSizing
