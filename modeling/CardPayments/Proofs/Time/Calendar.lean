import CardPayments.Time.Date

/-! # The day of a number

Counting the days of the calendar and numbering them are inverse: the day of a number is a valid
one, and its number is the number it came from. -/
set_option autoImplicit false

namespace CardPayments.Date

/-- The days before a year of its era, by its century, its cycle of four years and its place in that
cycle. -/
theorem daysBeforeYear_parts (century : Nat) {cycle place : Nat} (inCentury : cycle ≤ 24)
    (inCycle : place ≤ 3) :
    daysBeforeYear (century * 100 + cycle * 4 + place) =
      century * 36524 + cycle * 1461 + place * 365 := by
  rw [daysBeforeYear]
  omega

/-- A day of an era is one of the days of its year.  Day 365 is a leap day: it ends the last year of
a cycle, and the last cycle of a century has none unless the century is the last one. -/
theorem exists_parts {dayOfEra : Nat} (inEra : dayOfEra < 146097) :
    ∃ century cycle place day, century ≤ 3 ∧ cycle ≤ 24 ∧ place ≤ 3 ∧ day ≤ 365 ∧
      (day = 365 → place = 3 ∧ (cycle = 24 → century = 3)) ∧
      yearOfDay dayOfEra = century * 100 + cycle * 4 + place ∧
      dayOfEra = century * 36524 + cycle * 1461 + place * 365 + day := by
  obtain ⟨century, hcentury⟩ : ∃ k, k = min (dayOfEra / 36524) 3 := ⟨_, rfl⟩
  obtain ⟨inCentury, hinCentury⟩ : ∃ k, k = dayOfEra - century * 36524 := ⟨_, rfl⟩
  obtain ⟨cycle, hcycle⟩ : ∃ k, k = inCentury / 1461 := ⟨_, rfl⟩
  obtain ⟨inCycle, hinCycle⟩ : ∃ k, k = inCentury - cycle * 1461 := ⟨_, rfl⟩
  obtain ⟨place, hplace⟩ : ∃ k, k = min (inCycle / 365) 3 := ⟨_, rfl⟩
  have year : yearOfDay dayOfEra = century * 100 + cycle * 4 + place := by
    rw [hplace, hinCycle, hcycle, hinCentury, hcentury]
    rfl
  have centuryDays : inCentury ≤ 36524 ∧ (inCentury = 36524 → century = 3) := by omega
  have cycleDays : inCycle ≤ 1460 ∧ (cycle = 24 → inCycle = 1460 → inCentury = 36524) := by omega
  exact ⟨century, cycle, place, inCycle - place * 365, by omega, by omega, by omega, by omega,
    by omega, year, by omega⟩

/-- A month counted from March and the days before it, for a day of the year. -/
theorem exists_month {day : Nat} (inYear : day ≤ 365) :
    ∃ month, month ≤ 11 ∧ (5 * day + 2) / 153 = month ∧ daysBeforeMonth month ≤ day ∧
      (month < 11 → day < daysBeforeMonth (month + 1)) := by
  unfold daysBeforeMonth
  exact ⟨(5 * day + 2) / 153, by omega, rfl, by omega, by omega⟩

theorem isLeap_parts {era : Int} {century cycle : Nat} (inCentury : cycle ≤ 24)
    (inEra : cycle = 24 → century = 3) :
    isLeap (era * 400 + (century * 100 + cycle * 4 + 3 : Nat) + 1) = true := by
  simp only [isLeap, Bool.and_eq_true, Bool.or_eq_true, beq_iff_eq, bne_iff_ne, ne_eq]
  omega

/-- What the day of a number is made of. -/
theorem ofDayNumber_parts (n : Int) :
    ∃ (era : Int) (yearOfEra month day : Nat),
      yearOfEra < 400 ∧ month ≤ 11 ∧
      n + 719468 = era * 146097 + (daysBeforeYear yearOfEra + daysBeforeMonth month + day : Nat) ∧
      (month < 11 → daysBeforeMonth month + day < daysBeforeMonth (month + 1)) ∧
      daysBeforeMonth month + day ≤ 365 ∧
      (daysBeforeMonth month + day = 365 → isLeap (era * 400 + yearOfEra + 1) = true) ∧
      ofDayNumber n =
        if month < 10 then ⟨era * 400 + yearOfEra, month + 3, day + 1⟩
        else ⟨era * 400 + yearOfEra + 1, month - 9, day + 1⟩ := by
  obtain ⟨dayOfEra, hday⟩ : ∃ k, k = ((n + 719468) % 146097).toNat := ⟨_, rfl⟩
  obtain ⟨century, cycle, place, day, inEra, inCentury, inCycle, inYear, leap, year, total⟩ :=
    exists_parts (show dayOfEra < 146097 by omega)
  have before := daysBeforeYear_parts century inCentury inCycle
  obtain ⟨month, small, found, reached, next⟩ := exists_month inYear
  have rest : dayOfEra - daysBeforeYear (century * 100 + cycle * 4 + place) = day := by omega
  refine ⟨(n + 719468) / 146097, century * 100 + cycle * 4 + place, month,
    day - daysBeforeMonth month, by omega, small, by omega, by omega, by omega, ?_, ?_⟩
  · intro last
    obtain ⟨rfl, final⟩ := leap (by omega)
    exact isLeap_parts inCentury final
  · simp only [ofDayNumber, ← hday, year, rest, found]

theorem isValid_ofDayNumber (n : Int) : (ofDayNumber n).isValid = true := by
  obtain ⟨era, yearOfEra, month, day, _, small, _, next, inYear, leap, parts⟩ := ofDayNumber_parts n
  rw [parts]
  unfold daysBeforeMonth at next inYear leap
  by_cases early : month < 10
  · have later := next (by omega)
    rw [if_pos early]
    simp only [isValid, daysInMonth, Bool.and_eq_true, decide_eq_true_eq,
      if_neg (show ¬ month + 3 = 2 by omega)]
    split <;> omega
  · rw [if_neg early]
    simp only [isValid, daysInMonth, Bool.and_eq_true, decide_eq_true_eq]
    obtain rfl | rfl : month = 10 ∨ month = 11 := by omega
    · have later := next (by decide)
      rw [if_neg (by decide), if_neg (by decide)]
      omega
    · -- the day after 28 February is the leap day
      cases leaps : isLeap (era * 400 + yearOfEra + 1) with
      | true =>
          rw [if_pos rfl, if_pos rfl]
          omega
      | false =>
          have notLast : (153 * 11 + 2) / 5 + day ≠ 365 := by
            simp only [leaps, Bool.false_eq_true, imp_false] at leap
            exact leap
          rw [if_pos rfl, if_neg (by decide)]
          omega

theorem dayNumber_ofDayNumber (n : Int) : (ofDayNumber n).dayNumber = n := by
  obtain ⟨era, yearOfEra, month, day, inEra, small, total, _, _, _, parts⟩ := ofDayNumber_parts n
  have sameEra : (era * 400 + yearOfEra) / 400 = era := by omega
  have sameYear : ((era * 400 + yearOfEra) % 400).toNat = yearOfEra := by omega
  rw [parts]
  by_cases early : month < 10
  · simp only [if_pos early, dayNumber, if_neg (show ¬ month + 3 ≤ 2 by omega), Nat.add_sub_cancel,
      sameEra, sameYear]
    omega
  · have shifted : month - 9 + 9 = month := by omega
    have previous : era * 400 + (yearOfEra : Int) + 1 - 1 = era * 400 + yearOfEra := by omega
    simp only [if_neg early, dayNumber, if_pos (show month - 9 ≤ 2 by omega), Nat.add_sub_cancel,
      shifted, previous, sameEra, sameYear]
    omega

end CardPayments.Date
