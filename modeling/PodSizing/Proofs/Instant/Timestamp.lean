import PodSizing.Instant.Timestamp
import PodSizing.Proofs.Instant.Calendar
import PodSizing.Proofs.Numeral

/-!
# Timestamps are read as they were written

The text of a timestamp gives the timestamp back.  Each part of the text is a run of digits with a
mark after it, and `IsNumber` says what a reader has to know of such a run.
-/

namespace PodSizing.Timestamp

open PodSizing.Calendar

/-! ### Runs of digits -/

/-- A run of digits for a number, not longer than a width. -/
private structure IsNumber (width : Nat) (digits : List Char) (value : Nat) : Prop where
  some_digit : digits ≠ []
  digits_only : ∀ c ∈ digits, c.isDigit = true
  length_le : digits.length ≤ width
  value_eq : Numeral.digitsValue digits = value

private theorem IsNumber.of_length_le {width other value : Nat} {digits : List Char}
    (number : IsNumber width digits value) (length_le : digits.length ≤ other) :
    IsNumber other digits value :=
  ⟨number.some_digit, number.digits_only, length_le, number.value_eq⟩

private theorem toList_padded (width value : Nat) :
    (padded width value).toList =
      List.replicate (width - (Nat.toDigits 10 value).length) '0' ++ Nat.toDigits 10 value := by
  have written : (toString value).toList = Nat.toDigits 10 value := Nat.toList_repr
  rw [padded, String.toList_append, String.toList_ofList, ← String.length_toList, written]

private theorem length_padded (width value : Nat) :
    (padded width value).toList.length = max width (Nat.toDigits 10 value).length := by
  rw [toList_padded, List.length_append, List.length_replicate]
  omega

private theorem isNumber_padded {width most value : Nat} (fits : value < Nat.pow 10 most)
    (pos : 0 < most) (wide : width ≤ most) :
    IsNumber most (padded width value).toList value := by
  constructor
  case some_digit => simp [toList_padded, Nat.toDigits_ne_nil]
  case digits_only =>
    intro c mem
    rw [toList_padded] at mem
    rcases List.mem_append.mp mem with zero | digit
    · rw [List.eq_of_mem_replicate zero]
      decide
    · exact Nat.isDigit_of_mem_toDigits (by decide) (by decide) digit
  case length_le =>
    have length_le : (Nat.toDigits 10 value).length ≤ most :=
      (Nat.length_toDigits_le_iff (by decide) pos).mpr fits
    rw [length_padded]
    exact Nat.max_le.mpr ⟨wide, length_le⟩
  case value_eq =>
    rw [toList_padded, Numeral.digitsValue_zeros, Numeral.digitsValue_toDigits]

/-- A run of digits is taken up to the mark after it. -/
private theorem scanDigits_append {width value : Nat} {digits : List Char}
    (number : IsNumber width digits value) {mark : Char} (not_digit : mark.isDigit = false)
    (rest : List Char) :
    scanDigits width (digits ++ mark :: rest) = .ok (value, mark :: rest) := by
  have taken : ((digits ++ mark :: rest).take width).takeWhile Char.isDigit = digits := by
    rw [List.take_append, List.take_of_length_le number.length_le,
      List.takeWhile_append_of_pos number.digits_only]
    cases width - digits.length with
    | zero => simp
    | succ more => simp [not_digit]
  have nonempty : digits.isEmpty = false := by simp [number.some_digit]
  simp [scanDigits, taken, nonempty, number.value_eq]

/-! ### Parts of the text -/

private theorem trimStart_cons {c : Char} (not_blank : Text.isBlank c = false) (rest : List Char) :
    Text.trimStart (c :: rest) = c :: rest :=
  List.dropWhile_cons_of_neg (by simp [not_blank])

/-- No blanks are removed from a run of digits. -/
private theorem trimStart_append {width value : Nat} {digits : List Char}
    (number : IsNumber width digits value) (rest : List Char) :
    Text.trimStart (digits ++ rest) = digits ++ rest := by
  cases digits with
  | nil => exact absurd rfl number.some_digit
  | cons c digits =>
      refine trimStart_cons (Text.isBlank_of_isAlphanum ?_) (digits ++ rest)
      rw [Char.isAlphanum, number.digits_only c List.mem_cons_self, Bool.or_true]

private theorem scanWithin_padded {least most value : Nat} (least_le : least ≤ value)
    (le_most : value ≤ most) (twoDigits : most < Nat.pow 10 2) {mark : Char}
    (not_digit : mark.isDigit = false) (rest : List Char) :
    scanWithin least most ((padded 2 value).toList ++ mark :: rest) =
      .ok (value, mark :: rest) := by
  have number : IsNumber 2 (padded 2 value).toList value :=
    isNumber_padded (Nat.lt_of_le_of_lt le_most twoDigits) (by decide) (by decide)
  simp only [scanWithin, trimStart_append number, scanDigits_append number not_digit]
  exact if_pos ⟨least_le, le_most⟩

private theorem isDigit_of_append_eq_cons {width value : Nat} {digits : List Char}
    (number : IsNumber width digits value) {text : List Char} {c : Char} {rest : List Char}
    (eq : digits ++ text = c :: rest) : c.isDigit = true := by
  cases digits with
  | nil => exact absurd rfl number.some_digit
  | cons first digits =>
      obtain ⟨rfl, -⟩ := List.cons.inj eq
      exact number.digits_only first List.mem_cons_self

private theorem scanYear_signed {magnitude : Nat} (lt : magnitude < Nat.pow 10 6)
    (rest : List Char) (sign : Int → Int) {year : Int} (year_eq : sign magnitude = year)
    (mem : -262143 ≤ year ∧ year ≤ 262142) :
    scanYear.signed ((padded 4 magnitude).toList ++ '-' :: rest) sign =
      .ok (year, '-' :: rest) := by
  have short : IsNumber 6 (padded 4 magnitude).toList magnitude :=
    isNumber_padded lt (by decide) (by decide)
  have number : IsNumber ((padded 4 magnitude).toList ++ '-' :: rest).length
      (padded 4 magnitude).toList magnitude := short.of_length_le (by simp)
  simp only [scanYear.signed, scanDigits_append number (show '-'.isDigit = false from rfl),
    bind, Except.bind]
  have bound : ((Nat.pow 2 31 : Nat) : Int) = 2147483648 := rfl
  rw [year_eq, bound]
  exact if_pos ⟨by omega, by omega⟩

private theorem scanYear_yearText {year : Int} (mem : -262143 ≤ year ∧ year ≤ 262142)
    (rest : List Char) :
    scanYear ((yearText year).toList ++ '-' :: rest) = .ok (year, '-' :: rest) := by
  by_cases fourDigits : 0 ≤ year ∧ year ≤ 9999
  · have lt : year.toNat < 10000 := by omega
    have number : IsNumber 4 (padded 4 year.toNat).toList year.toNat :=
      isNumber_padded lt (by decide) (by decide)
    have read := scanDigits_append number (show '-'.isDigit = false from rfl) rest
    rw [yearText, if_pos fourDigits, scanYear, trimStart_append number]
    split
    · rename_i minus
      exact absurd (isDigit_of_append_eq_cons number minus) (by decide)
    · rename_i plus
      exact absurd (isDigit_of_append_eq_cons number plus) (by decide)
    · rw [read]
      show Except.ok ((year.toNat : Int), '-' :: rest) = _
      rw [Int.toNat_of_nonneg fourDigits.1]
  · have lt : year.natAbs < 1000000 := by omega
    rw [yearText, if_neg fourDigits]
    by_cases negative : year < 0
    · rw [if_pos negative, String.toList_append]
      exact scanYear_signed lt rest (fun year => -year) (by omega) mem
    · rw [if_neg negative, String.toList_append]
      exact scanYear_signed lt rest (fun year => year) (by omega) mem

private theorem scanNanos_padded {width value : Nat} (fits : value < Nat.pow 10 width)
    (pos : 0 < width) (le : width ≤ 9) :
    scanNanos ('.' :: ((padded width value).toList ++ ['Z'])) =
      .ok (value * Nat.pow 10 (9 - width), ['Z']) := by
  have short : IsNumber width (padded width value).toList value :=
    isNumber_padded fits pos (Nat.le_refl width)
  have number : IsNumber 9 (padded width value).toList value :=
    short.of_length_le (Nat.le_trans short.length_le le)
  have count : ((padded width value).toList ++ ['Z']).length - ['Z'].length = width := by
    have widest := length_padded width value
    have length_le := short.length_le
    rw [List.length_append]
    omega
  simp only [scanNanos, scanDigits_append number (show 'Z'.isDigit = false from rfl)]
  show Except.ok (value * Nat.pow 10 (9 - (_ - _)), _) = _
  rw [count]
  rfl

private theorem scanNanos_fractionText {nanos : Nat} (lt : nanos < 1000000000) :
    scanNanos ((fractionText nanos).toList ++ ['Z']) = .ok (nanos, ['Z']) := by
  -- The groups of digits that are left out are zero.
  have kept {width value : Nat} (fits : value < Nat.pow 10 width) (pos : 0 < width)
      (le : width ≤ 9) (value_eq : value * Nat.pow 10 (9 - width) = nanos) :
      scanNanos (("." ++ padded width value).toList ++ ['Z']) = .ok (nanos, ['Z']) := by
    rw [String.toList_append, ← value_eq]
    exact scanNanos_padded fits pos le
  unfold fractionText
  split
  case isTrue whole => rw [whole]; rfl
  case isFalse =>
    split
    case isTrue millis =>
      have millis_lt : nanos / 1000000 < 1000 := by omega
      have millis_eq : nanos / 1000000 * 1000000 = nanos := by omega
      exact kept millis_lt (by decide) (by decide) millis_eq
    case isFalse =>
      split
      case isTrue micros =>
        have micros_lt : nanos / 1000 < 1000000 := by omega
        have micros_eq : nanos / 1000 * 1000 = nanos := by omega
        exact kept micros_lt (by decide) (by decide) micros_eq
      case isFalse => exact kept lt (by decide) (by decide) (Nat.mul_one nanos)

/-! ### The whole text -/

/-- The parts that the text of a timestamp in UTC names. -/
def parts (timestamp : Timestamp) : Parts :=
  let seconds := timestamp.instant.seconds
  let secondOfDay := (seconds % 86400).toNat
  { date := dateOfDay (seconds / 86400)
    hour := secondOfDay / 3600
    minute := secondOfDay / 60 % 60
    second := secondOfDay % 60 + if timestamp.leap then 1 else 0
    nanos := (timestamp.instant.nanos % 1000000000).toNat
    offset := 0 }

private theorem scanMark_cons {mark : Char} (not_blank : Text.isBlank mark = false)
    (rest : List Char) : scanMark mark (mark :: rest) = .ok rest := by
  rw [scanMark, trimStart_cons not_blank]
  exact if_pos rfl

/-- The text is the parts with their marks. -/
private theorem toList_toText (timestamp : Timestamp) :
    (timestamp.toText .letter).toList =
      (yearText timestamp.parts.date.year).toList ++ '-' ::
        ((padded 2 timestamp.parts.date.month).toList ++ '-' ::
          ((padded 2 timestamp.parts.date.day).toList ++ 'T' ::
            ((padded 2 timestamp.parts.hour).toList ++ ':' ::
              ((padded 2 timestamp.parts.minute).toList ++ ':' ::
                ((padded 2 timestamp.parts.second).toList ++
                  ((fractionText timestamp.parts.nanos).toList ++ ['Z'])))))) := by
  simp [toText, secondText, parts]

/-- Instants lie in the years that a reader takes. -/
private theorem year_parts_mem (timestamp : Timestamp) :
    -262143 ≤ timestamp.parts.date.year ∧ timestamp.parts.date.year ≤ 262142 := by
  have first := timestamp.instant.first_le
  have last := timestamp.instant.le_last
  apply year_dateOfDay
  · unfold Instant.seconds
    omega
  · unfold Instant.seconds
    omega

/-- No digit stands after the seconds. -/
private theorem exists_mark_fractionText (nanos : Nat) :
    ∃ mark rest, (fractionText nanos).toList ++ ['Z'] = mark :: rest ∧ mark.isDigit = false := by
  by_cases none : nanos = 0
  · exact ⟨'Z', [], by rw [fractionText, if_pos none]; rfl, rfl⟩
  · have point : ∃ digits, fractionText nanos = "." ++ digits := by
      rw [fractionText, if_neg none]
      split
      · exact ⟨_, rfl⟩
      · split
        · exact ⟨_, rfl⟩
        · exact ⟨_, rfl⟩
    obtain ⟨digits, text⟩ := point
    exact ⟨'.', digits.toList ++ ['Z'], by rw [text, String.toList_append]; rfl, rfl⟩

theorem Parts.ofText_toText (timestamp : Timestamp) :
    Parts.ofText (timestamp.toText .letter) = .ok timestamp.parts := by
  have year := timestamp.year_parts_mem
  have month : 1 ≤ timestamp.parts.date.month ∧ timestamp.parts.date.month ≤ 12 :=
    month_dateOfDay _
  have day : 1 ≤ timestamp.parts.date.day ∧ timestamp.parts.date.day ≤ 31 := day_dateOfDay _
  have hour : timestamp.parts.hour ≤ 23 := by simp only [parts]; omega
  have minute : timestamp.parts.minute ≤ 59 := by simp only [parts]; omega
  have second : timestamp.parts.second ≤ 60 := by simp only [parts]; split <;> omega
  have nanos : timestamp.parts.nanos < 1000000000 := by simp only [parts]; omega
  have dash : '-'.isDigit = false ∧ Text.isBlank '-' = false := by decide
  have colon : ':'.isDigit = false ∧ Text.isBlank ':' = false := by decide
  obtain ⟨mark, rest, fraction, not_digit⟩ := exists_mark_fractionText timestamp.parts.nanos
  have scanned := scanNanos_fractionText nanos
  rw [fraction] at scanned
  have zone : scanOffset (Text.trimStart ['Z']) = .ok (0, []) := rfl
  simp only [Parts.ofText, toList_toText, fraction, scanYear_yearText year, scanMark_cons dash.2,
    scanMark_cons colon.2, bind, Except.bind, scanDivider,
    scanWithin_padded month.1 month.2 (by decide) dash.1,
    scanWithin_padded day.1 day.2 (by decide) (show 'T'.isDigit = false from rfl),
    scanWithin_padded (Nat.zero_le _) hour (by decide) colon.1,
    scanWithin_padded (Nat.zero_le _) minute (by decide) colon.1,
    scanWithin_padded (Nat.zero_le _) second (by decide) not_digit, scanned, zone]
  rfl

/-- The second 60 is written in a leap second only. -/
private theorem second_parts (timestamp : Timestamp) :
    (timestamp.parts.second == 60) = timestamp.leap ∧
      (if timestamp.leap then 59 else timestamp.parts.second) =
        (timestamp.instant.seconds % 86400).toNat % 60 := by
  obtain ⟨instant, leap, leap_end⟩ := timestamp
  cases leap with
  | false =>
      have second_ne : (instant.seconds % 86400).toNat % 60 ≠ 60 := by omega
      exact ⟨by simp [parts, second_ne], rfl⟩
  | true =>
      have last := leap_end rfl
      have second : (instant.seconds % 86400).toNat % 60 = 59 := by omega
      exact ⟨by simp [parts, second], second.symm⟩

private theorem ofNanos?_nanos (instant : Instant) :
    Instant.ofNanos? instant.nanos = some instant := by
  rw [Instant.ofNanos?, dif_pos instant.first_le, dif_pos instant.le_last]

theorem ofParts_parts (timestamp : Timestamp) : ofParts timestamp.parts = .ok timestamp := by
  have inRange : (-262143 ≤ timestamp.parts.date.year ∧ timestamp.parts.date.year ≤ 262142) ∧
      timestamp.parts.date.isValid = true ∧ timestamp.parts.offset.natAbs < 86400 :=
    ⟨timestamp.year_parts_mem, isValid_dateOfDay _, show 0 < 86400 by decide⟩
  obtain ⟨isLeap, second⟩ := timestamp.second_parts
  have nanos : (dayOfDate timestamp.parts.date * 86400 + timestamp.parts.hour * 3600 +
      timestamp.parts.minute * 60 + ((timestamp.instant.seconds % 86400).toNat % 60 : Nat) -
        timestamp.parts.offset) * 1000000000 + timestamp.parts.nanos = timestamp.instant.nanos := by
    simp only [parts, dayOfDate_dateOfDay, Instant.seconds]
    omega
  simp only [ofParts, isLeap, second, nanos, ofNanos?_nanos]
  rw [if_neg (not_not_intro inRange)]
  exact dif_pos timestamp.leap_end

/-- The text of a timestamp gives the timestamp back. -/
theorem ofText_toText (timestamp : Timestamp) :
    ofText (timestamp.toText .letter) = .ok timestamp := by
  rw [ofText, Parts.ofText_toText]
  exact ofParts_parts timestamp

end PodSizing.Timestamp
