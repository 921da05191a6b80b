import PodSizing.Instant.Calendar

/-!
# Days and dates

Every day has a date that exists in the calendar, and the date gives the day back.

A day of an era is split into centuries, groups of four years, years of a group and days.  The
last century of an era, the last group of a century and the last year of a group may each differ
by a day from the others; `EraDay` says where the day 365 of a year can lie, and it lies in a leap
year.
-/

namespace PodSizing.Calendar

/-- The place of a day in its era, in years that begin in March. -/
private structure EraDay (dayOfEra century group year dayOfYear : Int) : Prop where
  sum : dayOfEra = 36524 * century + 1461 * group + 365 * year + dayOfYear
  century_mem : 0 ≤ century ∧ century ≤ 3
  group_mem : 0 ≤ group ∧ group ≤ 24
  year_mem : 0 ≤ year ∧ year ≤ 3
  day_mem : 0 ≤ dayOfYear ∧ dayOfYear ≤ 365
  /-- The additional day comes at the end of a group; of the groups that end a century only that of
  the last century has it. -/
  leap : dayOfYear = 365 → year = 3 ∧ (group < 24 ∨ century = 3)

private theorem exists_eraDay {dayOfEra : Int} (first : 0 ≤ dayOfEra) (last : dayOfEra < 146097) :
    ∃ century group year dayOfYear, EraDay dayOfEra century group year dayOfYear := by
  obtain ⟨century, atCentury⟩ : ∃ century, century = min (dayOfEra / 36524) 3 := ⟨_, rfl⟩
  obtain ⟨group, atGroup⟩ : ∃ group, group = (dayOfEra - 36524 * century) / 1461 := ⟨_, rfl⟩
  obtain ⟨year, atYear⟩ :
      ∃ year, year = min ((dayOfEra - 36524 * century - 1461 * group) / 365) 3 := ⟨_, rfl⟩
  refine ⟨century, group, year, dayOfEra - 36524 * century - 1461 * group - 365 * year, ?_⟩
  constructor <;> omega

/-- The year of a day of an era, as `dateOfDay` computes it. -/
private theorem EraDay.year_eq {dayOfEra century group year dayOfYear : Int}
    (place : EraDay dayOfEra century group year dayOfYear) :
    (dayOfEra - dayOfEra / 1460 + dayOfEra / 36524 - dayOfEra / 146096) / 365 =
      100 * century + 4 * group + year := by
  obtain ⟨sum, century_mem, group_mem, year_mem, day_mem, leap⟩ := place
  -- Before the last day of the era the quotients differ from the parts by at most one.
  have eras : dayOfEra / 146096 = if dayOfEra = 146096 then 1 else 0 := by split <;> omega
  have centuries : dayOfEra / 36524 = if dayOfEra = 146096 then 4 else century := by
    split <;> omega
  have groups : dayOfEra / 1460 = 25 * century + group +
      if 1460 ≤ 24 * century + group + 365 * year + dayOfYear then 1 else 0 := by
    split <;> omega
  rw [eras, centuries, groups]
  split <;> split <;> omega

/-- The year of an era and the day of the year that `dateOfDay` finds for a day of the era. -/
private structure YearDay (dayOfEra yearOfEra dayOfYear : Int) : Prop where
  sum : dayOfEra = 365 * yearOfEra + yearOfEra / 4 - yearOfEra / 100 + dayOfYear
  year_mem : 0 ≤ yearOfEra ∧ yearOfEra ≤ 399
  day_mem : 0 ≤ dayOfYear ∧ dayOfYear ≤ 365
  leap : dayOfYear = 365 → isLeapYear (yearOfEra + 1) = true
  year_eq :
    (dayOfEra - dayOfEra / 1460 + dayOfEra / 36524 - dayOfEra / 146096) / 365 = yearOfEra

private theorem EraDay.yearDay {dayOfEra century group year dayOfYear : Int}
    (place : EraDay dayOfEra century group year dayOfYear) :
    YearDay dayOfEra (100 * century + 4 * group + year) dayOfYear := by
  have year_eq := place.year_eq
  obtain ⟨sum, century_mem, group_mem, year_mem, day_mem, leap⟩ := place
  refine ⟨?sum, ?year, day_mem, ?leap, year_eq⟩ <;> clear year_eq
  case sum =>
    have quarters : (100 * century + 4 * group + year) / 4 = 25 * century + group := by omega
    have centuries : (100 * century + 4 * group + year) / 100 = century := by omega
    rw [quarters, centuries]
    omega
  case year => omega
  case leap =>
    intro additional
    obtain ⟨rfl, ends⟩ := leap additional
    have quarter : (100 * century + 4 * group + 3 + 1) % 4 = 0 := by omega
    have century_or_era : (100 * century + 4 * group + 3 + 1) % 100 ≠ 0 ∨
        (100 * century + 4 * group + 3 + 1) % 400 = 0 := by omega
    simpa [isLeapYear, quarter] using century_or_era

/-- The date of a day of a year that begins in March. -/
private def dateInYear (year dayOfYear : Int) : Date :=
  let monthFromMarch := (5 * dayOfYear + 2) / 153
  let month := if monthFromMarch < 10 then monthFromMarch + 3 else monthFromMarch - 9
  { year := if month ≤ 2 then year + 1 else year
    month := month.toNat
    day := (dayOfYear - (153 * monthFromMarch + 2) / 5 + 1).toNat }

/-- The date of a day of a year, by the month counted from March. -/
private theorem exists_month {dayOfYear : Int} (mem : 0 ≤ dayOfYear ∧ dayOfYear ≤ 365)
    (year : Int) :
    ∃ month day : Nat, month ≤ 11 ∧ dayOfYear = ((153 * month + 2) / 5 : Nat) + day ∧
      153 * month ≤ 5 * dayOfYear + 2 ∧ 5 * dayOfYear + 2 < 153 * (month + 1) ∧
      dateInYear year dayOfYear =
        if month < 10 then ⟨year, month + 3, day + 1⟩ else ⟨year + 1, month - 9, day + 1⟩ := by
  obtain ⟨month, atMonth⟩ : ∃ month : Nat, (month : Int) = (5 * dayOfYear + 2) / 153 :=
    ⟨((5 * dayOfYear + 2) / 153).toNat, by omega⟩
  obtain ⟨day, atDay⟩ : ∃ day : Nat, (day : Int) = dayOfYear - (153 * month + 2) / 5 :=
    ⟨(dayOfYear - (153 * month + 2) / 5).toNat, by omega⟩
  refine ⟨month, day, by omega, by omega, by omega, by omega, ?_⟩
  have dayOfMonth : ((day : Int) + 1).toNat = day + 1 := by omega
  simp only [dateInYear, ← atMonth, ← atDay, dayOfMonth]
  by_cases beforeJanuary : month < 10
  · have before : (month : Int) < 10 := by omega
    have inYear : ¬ (month : Int) + 3 ≤ 2 := by omega
    have fromJanuary : ((month : Int) + 3).toNat = month + 3 := by omega
    rw [if_pos beforeJanuary, if_pos before, if_neg inYear, fromJanuary]
  · have before : ¬ (month : Int) < 10 := by omega
    have inYear : (month : Int) - 9 ≤ 2 := by omega
    have fromJanuary : ((month : Int) - 9).toNat = month - 9 := by omega
    rw [if_neg beforeJanuary, if_neg before, if_pos inYear, fromJanuary]

private theorem dayOfDate_dateInYear {dayOfYear : Int} (mem : 0 ≤ dayOfYear ∧ dayOfYear ≤ 365)
    (year : Int) :
    dayOfDate (dateInYear year dayOfYear) =
      year / 400 * 146097 + (year % 400 * 365 + year % 400 / 4 - year % 400 / 100 + dayOfYear) -
        719468 := by
  obtain ⟨month, day, month_le, sum, -, -, date⟩ := exists_month mem year
  rw [date]
  split
  · have fromMarch : (((month + 3 : Nat) : Int) + 9) % 12 = month := by omega
    simp only [dayOfDate, fromMarch]
    rw [if_neg (by omega)]
    omega
  · have fromMarch : (((month - 9 : Nat) : Int) + 9) % 12 = month := by omega
    simp only [dayOfDate, fromMarch]
    rw [if_pos (by omega), Int.add_sub_cancel]
    omega

/-- From one month to the next there are as many days as the month has. -/
private theorem month_step_le {year : Int} {month : Nat} (early : month < 11) :
    (153 * (month + 1) + 2) / 5 ≤ (153 * month + 2) / 5 +
      daysInMonth year (if month < 10 then month + 3 else month - 9) := by
  have inFirstYear : ∀ month ∈ List.range 11, (153 * (month + 1) + 2) / 5 ≤
      (153 * month + 2) / 5 + daysInMonth 1 (if month < 10 then month + 3 else month - 9) := by
    decide
  have notFebruary : (if month < 10 then month + 3 else month - 9) ≠ 2 := by split <;> omega
  have anyYear : daysInMonth year (if month < 10 then month + 3 else month - 9) =
      daysInMonth 1 (if month < 10 then month + 3 else month - 9) := by
    rw [daysInMonth, daysInMonth, if_neg notFebruary, if_neg notFebruary]
  rw [anyYear]
  exact inFirstYear month (List.mem_range.mpr early)

private theorem isValid_dateInYear {dayOfYear : Int} (mem : 0 ≤ dayOfYear ∧ dayOfYear ≤ 365)
    {year : Int} (leap : dayOfYear = 365 → isLeapYear (year + 1) = true) :
    (dateInYear year dayOfYear).isValid = true := by
  obtain ⟨month, day, month_le, sum, first, last, date⟩ := exists_month mem year
  have exists_day : day + 1 ≤ daysInMonth (if month < 10 then year else year + 1)
      (if month < 10 then month + 3 else month - 9) := by
    -- February, the last month, is the only one whose length depends on the year.
    by_cases february : month = 11
    · subst february
      by_cases additional : dayOfYear = 365
      · have length : daysInMonth (year + 1) 2 = 29 := by simp [daysInMonth, leap additional]
        show day + 1 ≤ daysInMonth (year + 1) 2
        omega
      · have length : 28 ≤ daysInMonth (year + 1) 2 := by
          rw [daysInMonth, if_pos rfl]
          split <;> decide
        show day + 1 ≤ daysInMonth (year + 1) 2
        omega
    · have step : (153 * (month + 1) + 2) / 5 ≤ (153 * month + 2) / 5 +
          daysInMonth (if month < 10 then year else year + 1)
            (if month < 10 then month + 3 else month - 9) := month_step_le (by omega)
      omega
  rw [date]
  by_cases beforeJanuary : month < 10
  · simp only [if_pos beforeJanuary] at exists_day ⊢
    simpa [Date.isValid] using exists_day
  · simp only [if_neg beforeJanuary] at exists_day ⊢
    simpa [Date.isValid] using exists_day

private theorem month_dateInYear {dayOfYear : Int} (mem : 0 ≤ dayOfYear ∧ dayOfYear ≤ 365)
    (year : Int) :
    1 ≤ (dateInYear year dayOfYear).month ∧ (dateInYear year dayOfYear).month ≤ 12 := by
  obtain ⟨month, day, month_le, sum, first, last, date⟩ := exists_month mem year
  rw [date]
  by_cases beforeJanuary : month < 10
  · rw [if_pos beforeJanuary]
    show 1 ≤ month + 3 ∧ month + 3 ≤ 12
    omega
  · rw [if_neg beforeJanuary]
    show 1 ≤ month - 9 ∧ month - 9 ≤ 12
    omega

private theorem year_dateInYear {dayOfYear : Int} (mem : 0 ≤ dayOfYear ∧ dayOfYear ≤ 365)
    (year : Int) :
    (dateInYear year dayOfYear).year = if dayOfYear < 306 then year else year + 1 := by
  obtain ⟨month, day, month_le, sum, first, last, date⟩ := exists_month mem year
  rw [date]
  by_cases beforeJanuary : month < 10
  · rw [if_pos beforeJanuary, if_pos (by omega)]
  · rw [if_neg beforeJanuary, if_neg (by omega)]

/-- The date of a day, by its era and the day of the year. -/
private theorem exists_dateInYear (day : Int) :
    ∃ yearOfEra dayOfYear, YearDay ((day + 719468) % 146097) yearOfEra dayOfYear ∧
      dateOfDay day = dateInYear (yearOfEra + (day + 719468) / 146097 * 400) dayOfYear := by
  have first : 0 ≤ (day + 719468) % 146097 := by omega
  have last : (day + 719468) % 146097 < 146097 := by omega
  obtain ⟨century, group, year, dayOfYear, place⟩ := exists_eraDay first last
  have inYear := place.yearDay
  generalize 100 * century + 4 * group + year = yearOfEra at inYear
  have day_eq : (day + 719468) % 146097 -
      (365 * yearOfEra + yearOfEra / 4 - yearOfEra / 100) = dayOfYear := by
    have sum := inYear.sum
    omega
  refine ⟨yearOfEra, dayOfYear, inYear, ?_⟩
  simp only [dateOfDay, dateInYear, inYear.year_eq, day_eq]

private theorem isLeapYear_add_eras (year eras : Int) :
    isLeapYear (year + eras * 400) = isLeapYear year := by
  have quarter : (year + eras * 400) % 4 = year % 4 := by omega
  have century : (year + eras * 400) % 100 = year % 100 := by omega
  have era : (year + eras * 400) % 400 = year % 400 := by omega
  simp only [isLeapYear, quarter, century, era]

/-- The number of a day's date is the day. -/
theorem dayOfDate_dateOfDay (day : Int) : dayOfDate (dateOfDay day) = day := by
  obtain ⟨yearOfEra, dayOfYear, inYear, date⟩ := exists_dateInYear day
  obtain ⟨sum, year_mem, day_mem, -, -⟩ := inYear
  have era : (yearOfEra + (day + 719468) / 146097 * 400) / 400 = (day + 719468) / 146097 := by
    omega
  have year : (yearOfEra + (day + 719468) / 146097 * 400) % 400 = yearOfEra := by omega
  rw [date, dayOfDate_dateInYear day_mem, era, year]
  omega

/-- The date of a day exists in the calendar. -/
theorem isValid_dateOfDay (day : Int) : (dateOfDay day).isValid = true := by
  obtain ⟨yearOfEra, dayOfYear, inYear, date⟩ := exists_dateInYear day
  rw [date]
  refine isValid_dateInYear inYear.day_mem fun additional => ?_
  rw [Int.add_right_comm, isLeapYear_add_eras]
  exact inYear.leap additional

theorem month_dateOfDay (day : Int) :
    1 ≤ (dateOfDay day).month ∧ (dateOfDay day).month ≤ 12 := by
  obtain ⟨yearOfEra, dayOfYear, inYear, date⟩ := exists_dateInYear day
  rw [date]
  exact month_dateInYear inYear.day_mem _

theorem day_dateOfDay (day : Int) : 1 ≤ (dateOfDay day).day ∧ (dateOfDay day).day ≤ 31 := by
  have exists_day := isValid_dateOfDay day
  rw [Date.isValid, Bool.and_eq_true, decide_eq_true_eq, decide_eq_true_eq] at exists_day
  refine ⟨exists_day.1, Nat.le_trans exists_day.2 ?_⟩
  unfold daysInMonth
  split
  · split <;> decide
  · split
    · decide
    · split <;> decide

/-- The days of the years -262143 to 262142. -/
theorem year_dateOfDay {day : Int} (first : -96465292 ≤ day) (last : day ≤ 95026236) :
    -262143 ≤ (dateOfDay day).year ∧ (dateOfDay day).year ≤ 262142 := by
  obtain ⟨yearOfEra, dayOfYear, inYear, date⟩ := exists_dateInYear day
  obtain ⟨sum, year_mem, day_mem, -, -⟩ := inYear
  obtain ⟨era, atEra⟩ : ∃ era, era = (day + 719468) / 146097 := ⟨_, rfl⟩
  rw [date, year_dateInYear day_mem, ← atEra]
  constructor
  · by_cases firstEra : era = -656
    · split <;> omega
    · split <;> omega
  · by_cases lastEra : era = 655
    · split <;> omega
    · split <;> omega

end PodSizing.Calendar
