/-
**The calendar is exact.**

An era of 400 years that begin in March is made of centuries of 36524 days, of four years of 1461
days, and of years of 365 days; the leap day, where there is one, is the last of its year. So the
number of a day in its era names these parts, and the date of a day leads back to its number.

* `Date.EraDay`, `exists_eraDay`: the parts of a day in its era;
* `EraDay.yearOfEra_eq`, `EraDay.dayOfYear_eq`: the formulas of the calendar read them off;
* `Date.toDays_ofDays`: the date of a day has the number of the day;
* `Date.isValid_ofDays`: it exists.
-/

import Mathlib.Tactic.IntervalCases
import Leasehold.Time.Calendar

namespace Leasehold.Date

/-- A day of an era in its century, in its four years and in its year. -/
structure EraDay (dayOfEra century quad year day : Int) : Prop where
  sum : dayOfEra = 36524 * century + 1461 * quad + 365 * year + day
  centuryRange : 0 ≤ century ∧ century ≤ 3
  quadRange : 0 ≤ quad ∧ quad ≤ 24
  yearRange : 0 ≤ year ∧ year ≤ 3
  dayRange : 0 ≤ day ∧ day ≤ 365
  /-- A leap day comes at the end of the fourth year, but not in a century unless it is the last. -/
  leap : day = 365 → year = 3 ∧ (quad = 24 → century = 3)

theorem exists_eraDay {dayOfEra : Int} (lower : 0 ≤ dayOfEra) (upper : dayOfEra < 146097) :
    ∃ century quad year day, EraDay dayOfEra century quad year day := by
  have century : ∃ century : Int, 0 ≤ century ∧ century ≤ 3 ∧ 0 ≤ dayOfEra - 36524 * century ∧
      (dayOfEra - 36524 * century ≤ 36523 ∨
        century = 3 ∧ dayOfEra - 36524 * century = 36524) :=
    ⟨min (dayOfEra / 36524) 3, by omega⟩
  obtain ⟨century, low, high, dayOfCentury⟩ := century
  let quad := (dayOfEra - 36524 * century) / 1461
  let year := min ((dayOfEra - 36524 * century - 1461 * quad) / 365) 3
  refine ⟨century, quad, year, dayOfEra - 36524 * century - 1461 * quad - 365 * year, ?_⟩
  constructor <;> omega

/-- The century of a day, with the last day of the era in the last century. -/
theorem century_eq {dayOfEra century dayOfCentury : Int}
    (sum : dayOfEra = 36524 * century + dayOfCentury) (range : 0 ≤ century ∧ century ≤ 3)
    (lower : 0 ≤ dayOfCentury)
    (upper : dayOfCentury ≤ 36523 ∨ dayOfCentury = 36524 ∧ century = 3) :
    dayOfEra / 36524 - dayOfEra / 146096 = century := by
  omega

namespace EraDay

variable {dayOfEra century quad year day : Int} (parts : EraDay dayOfEra century quad year day)

include parts

/-- The year of a day in its era. -/
theorem yearOfEra_eq :
    (dayOfEra - dayOfEra / 1460 + dayOfEra / 36524 - dayOfEra / 146096) / 365 =
      100 * century + 4 * quad + year := by
  obtain ⟨sum, centuryRange, quadRange, yearRange, dayRange, leap⟩ := parts
  have centuries : dayOfEra / 36524 - dayOfEra / 146096 = century :=
    century_eq (sum.trans (by omega)) centuryRange
      (show 0 ≤ 1461 * quad + 365 * year + day by omega) (by omega)
  -- The leap days so far, or one more where the day is late enough in its year.
  have leapDays : dayOfEra / 1460 = 25 * century + quad ∧ day ≤ 364 ∨
      dayOfEra / 1460 = 25 * century + quad + 1 ∧ 1 ≤ day := by omega
  omega

/-- The day in its year. -/
theorem dayOfYear_eq :
    dayOfEra - (365 * (100 * century + 4 * quad + year) + (100 * century + 4 * quad + year) / 4 -
      (100 * century + 4 * quad + year) / 100) = day := by
  obtain ⟨sum, centuryRange, quadRange, yearRange, dayRange, leap⟩ := parts
  omega

end EraDay

/-- A date whose year begins in March. -/
def ofParts (year day : Int) : Date :=
  let monthFromMarch := (5 * day + 2) / 153
  let month := if monthFromMarch < 10 then monthFromMarch + 3 else monthFromMarch - 9
  ⟨if month ≤ 2 then year + 1 else year, month.toNat,
    (day - (153 * monthFromMarch + 2) / 5 + 1).toNat⟩

theorem ofDays_eq {days century quad year day : Int}
    (parts : EraDay ((days + 719468) % 146097) century quad year day) :
    ofDays days =
      ofParts (100 * century + 4 * quad + year + (days + 719468) / 146097 * 400) day := by
  unfold ofDays ofParts
  simp only [parts.yearOfEra_eq, parts.dayOfYear_eq]

/-- A day of a year that begins in March has its number: every year has 365 days, and one more for
each leap day before it. -/
theorem toDays_ofParts (year : Int) {day : Int} (lower : 0 ≤ day) (upper : day ≤ 365) :
    (ofParts year day).toDays =
      365 * year + year / 4 - year / 100 + year / 400 + day - 719468 := by
  have month : 0 ≤ (5 * day + 2) / 153 ∧ (5 * day + 2) / 153 ≤ 11 := by omega
  unfold ofParts toDays
  generalize inMonth : (5 * day + 2) / 153 = monthFromMarch at month ⊢
  obtain ⟨first, last⟩ := month
  interval_cases monthFromMarch <;> simp <;> omega

/-- Such a day exists, unless it is a leap day of another year. -/
theorem isValid_ofParts (year : Int) {day : Int} (lower : 0 ≤ day) (upper : day ≤ 365)
    (leap : day = 365 → isLeapYear (year + 1) = true) : (ofParts year day).isValid = true := by
  have month : 0 ≤ (5 * day + 2) / 153 ∧ (5 * day + 2) / 153 ≤ 11 := by omega
  unfold ofParts isValid
  generalize inMonth : (5 * day + 2) / 153 = monthFromMarch at month ⊢
  obtain ⟨first, last⟩ := month
  have february : day - 337 + 1 ≤ if isLeapYear (year + 1) = true then 29 else 28 := by
    split
    · omega
    · next notLeap =>
      have : day ≠ 365 := fun last => notLeap (leap last)
      omega
  interval_cases monthFromMarch <;> simp [daysInMonth] <;> omega

/-- The date of a day as a day of a year that begins in March, which is a leap day only in a leap
year. -/
theorem exists_ofParts (days : Int) :
    ∃ year day, 0 ≤ day ∧ day ≤ 365 ∧ (day = 365 → isLeapYear (year + 1) = true) ∧
      ofDays days = ofParts year day ∧
      days = 365 * year + year / 4 - year / 100 + year / 400 + day - 719468 := by
  obtain ⟨century, quad, year, day, parts⟩ := exists_eraDay
    (Int.emod_nonneg (days + 719468) (by decide)) (Int.emod_lt_of_pos (days + 719468) (by decide))
  refine ⟨_, day, parts.dayRange.1, parts.dayRange.2, ?_, ofDays_eq parts, ?_⟩
  · intro last
    obtain ⟨fourth, ends⟩ := parts.leap last
    have centuryRange := parts.centuryRange
    have quadRange := parts.quadRange
    simp [isLeapYear]
    omega
  · obtain ⟨sum, centuryRange, quadRange, yearRange, dayRange, leap⟩ := parts
    generalize inEra : (days + 719468) / 146097 = era
    have quads : (100 * century + 4 * quad + year + era * 400) / 4 =
        25 * century + quad + 100 * era := by omega
    have centuries : (100 * century + 4 * quad + year + era * 400) / 100 =
        century + 4 * era := by omega
    have eras : (100 * century + 4 * quad + year + era * 400) / 400 = era := by omega
    rw [quads, centuries, eras]
    omega

/-- **The date of a day has the number of the day.** -/
theorem toDays_ofDays (days : Int) : (ofDays days).toDays = days := by
  obtain ⟨year, day, lower, upper, _, dated, numbered⟩ := exists_ofParts days
  rw [dated, toDays_ofParts year lower upper, ← numbered]

/-- **The date of a day exists.** -/
theorem isValid_ofDays (days : Int) : (ofDays days).isValid = true := by
  obtain ⟨year, day, lower, upper, leap, dated, _⟩ := exists_ofParts days
  rw [dated]
  exact isValid_ofParts year lower upper leap

/-- Month and day of a date that exists have two digits. -/
theorem lt_of_isValid {date : Date} (valid : date.isValid = true) :
    date.month < 100 ∧ date.day < 100 := by
  have short : daysInMonth date.year date.month ≤ 31 := by
    unfold daysInMonth
    split
    · split <;> decide
    all_goals decide
  simp only [isValid, Bool.and_eq_true, decide_eq_true_eq] at valid
  omega

/-- The years of the days that instants lie in. -/
theorem year_ofDays {days : Int} (lower : -96465292 ≤ days) (upper : days ≤ 95026236) :
    -262143 ≤ (ofDays days).year ∧ (ofDays days).year ≤ 262142 := by
  obtain ⟨year, day, _, _, _, dated, numbered⟩ := exists_ofParts days
  have quads : year / 4 = 100 * (year / 400) + year % 400 / 4 := by omega
  have centuries : year / 100 = 4 * (year / 400) + year % 400 / 100 := by omega
  have first : -262144 ≤ year ∧ (year = -262144 → 306 ≤ day) := by omega
  have last : year ≤ 262142 ∧ (year = 262142 → day < 306) := by omega
  rw [dated]
  unfold ofParts
  dsimp only
  split <;> split <;> omega

end Leasehold.Date
