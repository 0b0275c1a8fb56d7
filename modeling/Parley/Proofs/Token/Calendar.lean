import Parley.Token.Moment

/-!
# The calendar of a clock

A clock counts days. Years are taken from March on, so that the leap day is the last of its year,
and in eras of four centuries, which all have the same number of days.
-/

namespace Parley.Token

namespace Date

/-! ## Years of an era -/

section Year

variable {century four rest day : Nat}

/-- A day of an era lies in one of its centuries, in four years of those and on a day of these. -/
theorem exists_century (within : day < 146097) :
    ∃ century four rest, century ≤ 3 ∧ four ≤ 24 ∧ rest ≤ 1460 ∧
      (1461 * four + rest < 36524 ∨ century = 3 ∧ 1461 * four + rest = 36524) ∧
      day = 36524 * century + 1461 * four + rest := by
  by_cases last : day = 146096
  · exact ⟨3, 24, 1460, by omega⟩
  · exact ⟨day / 36524, day % 36524 / 1461, day % 36524 % 1461, by omega⟩

/-- The year of an era that a day lies in. -/
theorem yearOfEra_eq (century_le : century ≤ 3) (four_le : four ≤ 24) (rest_le : rest ≤ 1460)
    (within :
      1461 * four + rest < 36524 ∨ century = 3 ∧ 1461 * four + rest = 36524)
    (is : day = 36524 * century + 1461 * four + rest) :
    (day - day / 1460 + day / 36524 - day / 146096) / 365 =
      100 * century + 4 * four + min (rest / 365) 3 := by
  have leapDays :
      day / 1460 = 25 * century + four + (24 * century + four + rest) / 1460 := by omega
  rcases within with inside | ⟨rfl, last⟩
  · have centuries : day / 36524 = century := by omega
    have eras : day / 146096 = 0 := by omega
    rw [centuries, eras, leapDays]
    omega
  · have isLastDay : day = 146096 := by omega
    have isLastFour : four = 24 := by omega
    have isLastRest : rest = 1460 := by omega
    rw [isLastDay, isLastFour, isLastRest]
    rfl

/-- A year that starts in March has 366 days at most, and only if its last one is the leap day. -/
theorem dayOfYear_le (within : day < 146097) {year : Nat}
    (is : year = (day - day / 1460 + day / 36524 - day / 146096) / 365) :
    year ≤ 399 ∧ day - (365 * year + year / 4 - year / 100) ≤ 365 ∧
      (day - (365 * year + year / 4 - year / 100) = 365 →
        (year + 1) % 4 = 0 ∧ ((year + 1) % 100 ≠ 0 ∨ (year + 1) % 400 = 0)) := by
  obtain ⟨century, four, rest, century_le, four_le, rest_le, inside, isDay⟩ :=
    exists_century within
  rw [yearOfEra_eq century_le four_le rest_le inside isDay] at is
  have fours : year / 4 = 25 * century + four := by omega
  have centuries : year / 100 = century := by omega
  have dayOfYear :
      day - (365 * year + year / 4 - year / 100) = rest - 365 * min (rest / 365) 3 := by
    rw [fours, centuries]
    omega
  rw [dayOfYear]
  refine ⟨by omega, by omega, ?_⟩
  intro leapDay
  have isLast : rest = 1460 := by omega
  omega

end Year

/-! ## Months -/

/-- The day of a month that starts in March, and how long that month is. -/
theorem dayOfMonth_le {dayOfYear month : Nat} (within : dayOfYear ≤ 365)
    (is : month = (5 * dayOfYear + 2) / 153) :
    month ≤ 11 ∧ dayOfYear - (153 * month + 2) / 5 + 1 ≤ 31 ∧
      (month = 1 ∨ month = 3 ∨ month = 6 ∨ month = 8 →
        dayOfYear - (153 * month + 2) / 5 + 1 ≤ 30) ∧
      (month = 11 → dayOfYear - (153 * month + 2) / 5 + 1 ≤ 29 ∧
        (dayOfYear - (153 * month + 2) / 5 + 1 = 29 → dayOfYear = 365)) := by
  refine ⟨by omega, by omega, by omega, ?_⟩
  rintro rfl
  omega

/-- The lengths of the months from March on. -/
theorem daysIn_fromMarch (year : Int) {month : Nat} (within : month ≤ 11) :
    daysIn year (if month < 10 then month + 3 else month - 9) =
      if month = 11 then (if isLeapYear year then 29 else 28)
      else if month = 1 ∨ month = 3 ∨ month = 6 ∨ month = 8 then 30
      else 31 := by
  obtain rfl | rfl | rfl | rfl | rfl | rfl | rfl | rfl | rfl | rfl | rfl | rfl :
      month = 0 ∨ month = 1 ∨ month = 2 ∨ month = 3 ∨ month = 4 ∨ month = 5 ∨ month = 6 ∨
        month = 7 ∨ month = 8 ∨ month = 9 ∨ month = 10 ∨ month = 11 := by omega
  all_goals rfl

theorem isLeapYear_add_era (year era : Nat) :
    isLeapYear ((year + era * 400 + 1 : Nat) : Int) =
      decide ((year + 1) % 4 = 0 ∧ ((year + 1) % 100 ≠ 0 ∨ (year + 1) % 400 = 0)) := by
  simp only [isLeapYear, decide_eq_decide]
  omega

theorem isValid_of_le {year month day : Nat} (year_le : year ≤ 262142) (month_pos : 1 ≤ month)
    (month_le : month ≤ 12) (day_pos : 1 ≤ day) (day_le : day ≤ daysIn year month) :
    isValid ⟨year, month, day⟩ = true := by
  have atLeast : leastYear ≤ (year : Int) := Int.le_trans (by decide) (Int.natCast_nonneg year)
  have atMost : (year : Int) ≤ greatestYear := Int.ofNat_le.mpr year_le
  simp only [isValid, Bool.and_eq_true, decide_eq_true_eq]
  exact ⟨⟨⟨⟨⟨atLeast, atMost⟩, month_pos⟩, month_le⟩, day_pos⟩, day_le⟩

/-- A day of a year that starts in March is one of the calendar. The months from January on belong
to the next year. -/
theorem isValid_fromMarch {year dayOfYear month : Nat} (year_lt : year < 262142)
    (dayOfYear_le : dayOfYear ≤ 365)
    (leapDay : dayOfYear = 365 → isLeapYear ((year + 1 : Nat) : Int) = true)
    (is : month = (5 * dayOfYear + 2) / 153) :
    isValid
     ⟨((year + if (if month < 10 then month + 3 else month - 9) ≤ 2 then 1 else 0 : Nat) : Int),
      if month < 10 then month + 3 else month - 9,
      dayOfYear - (153 * month + 2) / 5 + 1⟩ = true := by
  obtain ⟨month_le, day_le, short, february⟩ := dayOfMonth_le dayOfYear_le is
  have day_pos : 1 ≤ dayOfYear - (153 * month + 2) / 5 + 1 := Nat.le_add_left 1 _
  generalize dayOfYear - (153 * month + 2) / 5 + 1 = day at day_pos day_le short february ⊢
  have length := daysIn_fromMarch
    (((year + if (if month < 10 then month + 3 else month - 9) ≤ 2 then 1 else 0 : Nat) : Int))
    month_le
  by_cases spring : month < 10
  · have notNext : ¬ month + 3 ≤ 2 := by omega
    have notFebruary : month ≠ 11 := by omega
    simp only [if_pos spring, if_neg notNext, if_neg notFebruary] at length ⊢
    refine isValid_of_le (by omega) (by omega) (by omega) day_pos ?_
    rw [length]
    split
    next isShort => exact short isShort
    · exact day_le
  · have next : month - 9 ≤ 2 := by omega
    simp only [if_neg spring, if_pos next] at length ⊢
    refine isValid_of_le year_lt (by omega) (by omega) day_pos ?_
    rw [length]
    split
    next isFebruary =>
      obtain ⟨atMost, onlyThen⟩ := february isFebruary
      by_cases isLeap : isLeapYear ((year + 1 : Nat) : Int) = true
      · rw [if_pos isLeap]
        exact atMost
      · have notLast : day ≠ 29 := fun isLast => isLeap (leapDay (onlyThen isLast))
        rw [if_neg isLeap]
        omega
    next notFebruary =>
      rw [if_neg (by omega)]
      exact day_le

/-- Every day that a clock counts is one of the calendar, up to years past 262000. -/
theorem isValid_ofDays {days : Nat} (within : days < 95000000) : (ofDays days).isValid = true := by
  obtain ⟨year_le, dayOfYear_le, leapDay⟩ :=
    dayOfYear_le (Nat.mod_lt (days + 719468) (show 146097 > 0 by decide)) rfl
  refine isValid_fromMarch ?_ dayOfYear_le ?_ rfl
  · by_cases isLast : (days + 719468) / 146097 = 655
    · rw [isLast]
      omega
    · omega
  · intro isLeapDay
    rw [isLeapYear_add_era]
    exact decide_eq_true (leapDay isLeapDay)

end Date

end Parley.Token
