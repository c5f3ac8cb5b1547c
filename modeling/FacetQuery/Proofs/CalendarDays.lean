/-
**Days and dates.**

The date of a day is found by formulas: four centuries have a fixed number of days, and the year
within them is a quotient that lets the leap days before it count as less than a year. The quotient
never goes down, and it is right on the first and the last day of each of the four hundred years, so
it is right on every day. The date has that day for its number again, and it is in the calendar.

* `CalendarDate.yearStart_le`, `CalendarDate.lt_yearStart` — **the year of a day** begins no later
  and ends no earlier.
* `CalendarDate.MarchDate` — a date in a year that begins in March.
* `CalendarDate.day_le_monthLength` — **the day of the month** found for a day of the year is one of
  that month.
* `CalendarDate.toDays_ofDays`, `CalendarDate.isValid_ofDays` — **the date of a day** has this day
  for its number, and is in the calendar.
-/

import FacetQuery.Time.Calendar
import Mathlib.Tactic.IntervalCases

namespace FacetQuery.CalendarDate

theorem cycle_pos : 0 < cycle := by decide

/-! ### Years -/

/-- The day on which a year begins, counted from the first of March of the year zero. -/
def yearStart (year : Int) : Int := 365 * year + year / 4 - year / 100 + year / 400

/-- The year of a day of four centuries, by the formula of `ofDays`. -/
def yearOn (day : Int) : Int := (day - day / 1460 + day / 36524 - day / 146096) / 365

theorem yearOn_mono {day other : Int} (le : day ≤ other) : yearOn day ≤ yearOn other := by
  have years : day - day / 1460 ≤ other - other / 1460 := by omega
  have centuries : day / 36524 - day / 146096 ≤ other / 36524 - other / 146096 := by omega
  unfold yearOn
  exact Int.ediv_le_ediv (by decide) (by omega)

/-- The formula is right on the first and on the last day of each year. -/
theorem yearOn_ends : ∀ year : Nat, year < 400 →
    yearOn (yearStart year) = year ∧ yearOn (yearStart (year + 1) - 1) = year := by
  decide +kernel

theorem yearOn_range {day : Int} (first : 0 ≤ day) (last : day < cycle) :
    0 ≤ yearOn day ∧ yearOn day < 400 := by
  unfold cycle at last
  unfold yearOn
  omega

/-- **The year of a day begins on the day or before it**: the last day of the year before would have
a lesser year. -/
theorem yearStart_le {day : Int} (first : 0 ≤ day) (last : day < cycle) :
    yearStart (yearOn day) ≤ day := by
  obtain ⟨positive, below⟩ := yearOn_range first last
  obtain ⟨year, same⟩ := Int.eq_ofNat_of_zero_le positive
  rw [same]
  by_contra before
  cases year with
  | zero => exact before first
  | succ earlier =>
    rw [Int.natCast_succ] at before same
    have le := yearOn_mono (Int.le_sub_one_of_lt (Int.not_le.mp before))
    rw [(yearOn_ends earlier (by omega)).2] at le
    omega

/-- **The year after that of a day begins behind it**: its first day would have a greater year. -/
theorem lt_yearStart {day : Int} (first : 0 ≤ day) (last : day < cycle) :
    day < yearStart (yearOn day + 1) := by
  obtain ⟨positive, below⟩ := yearOn_range first last
  obtain ⟨year, same⟩ := Int.eq_ofNat_of_zero_le positive
  rw [same]
  by_contra behind
  by_cases final : year = 399
  -- Behind the last year the next four centuries begin.
  · subst final
    exact behind last
  · have le := yearOn_mono (Int.not_lt.mp behind)
    have next := (yearOn_ends (year + 1) (by omega)).1
    rw [Int.natCast_succ] at next
    omega

/-- The formulas leave out the leap day that comes once in four centuries, at the end of the last
year. -/
theorem yearStart_of_range {year : Int} (range : 0 ≤ year ∧ year < 400) :
    yearStart year = 365 * year + year / 4 - year / 100 := by
  unfold yearStart
  omega

/-- A year has at most one leap day. -/
theorem yearStart_succ_le (year : Int) : yearStart (year + 1) ≤ yearStart year + 366 := by
  unfold yearStart
  omega

/-! ### Months -/

/-- **A date in a year that begins in March**: some times four centuries, a year of these, a month
from March on and a day of the month. -/
structure MarchDate where
  cycles : Int
  year : Int
  month : Int
  day : Int
  yearRange : 0 ≤ year ∧ year < 400
  monthRange : 0 ≤ month ∧ month ≤ 11
  dayRange : 1 ≤ day

namespace MarchDate

/-- The date in a year that begins in January. -/
def date (march : MarchDate) : CalendarDate :=
  if march.month < 10 then
    ⟨march.cycles * 400 + march.year, (march.month + 3).toNat, march.day.toNat⟩
  else ⟨march.cycles * 400 + march.year + 1, (march.month - 9).toNat, march.day.toNat⟩

/-- The day of the year, the first of March being zero. -/
def dayOfYear (march : MarchDate) : Int := (153 * march.month + 2) / 5 + march.day - 1

/-- The number of the day, from 1970. -/
def days (march : MarchDate) : Int :=
  march.cycles * cycle +
    (365 * march.year + march.year / 4 - march.year / 100 + march.dayOfYear) - epoch

theorem toDays_date (march : MarchDate) : march.date.toDays = march.days := by
  obtain ⟨cycles, year, month, day, yearRange, monthRange, dayRange⟩ := march
  unfold date days dayOfYear toDays cycle epoch
  dsimp only
  split
  all_goals
    dsimp only
    split <;> omega

theorem day_date (march : MarchDate) : (march.date.day : Int) = march.day := by
  have positive : 0 ≤ march.day := Int.le_trans (by decide) march.dayRange
  unfold date
  split
  · exact Int.toNat_of_nonneg positive
  · exact Int.toNat_of_nonneg positive

/-- The months are as long as the formula says, but for the last, which has the leap day. -/
theorem monthLength_date (march : MarchDate) :
    (monthLength march.date.year march.date.month : Int) =
      if march.month = 11 then if isLeap (march.cycles * 400 + march.year + 1) then 29 else 28
      else (153 * (march.month + 1) + 2) / 5 - (153 * march.month + 2) / 5 := by
  obtain ⟨cycles, year, month, day, yearRange, ⟨least, greatest⟩, dayRange⟩ := march
  unfold date
  dsimp only
  interval_cases month <;> simp [monthLength]

end MarchDate

/-- A leap day ends a year that begins in March, and four centuries do not change which years have
one. -/
theorem isLeap_of_last {cycles year : Int} (last : yearStart year + 365 < yearStart (year + 1)) :
    isLeap (cycles * 400 + year + 1) = true := by
  unfold yearStart at last
  rw [isLeap, decide_eq_true_iff]
  omega

/-- **The day of the month** that is found for a day of the year is one of its month. -/
theorem day_le_monthLength (march : MarchDate)
    (within : yearStart march.year + march.dayOfYear < yearStart (march.year + 1))
    (found : march.month = (5 * march.dayOfYear + 2) / 153) :
    march.date.day ≤ monthLength march.date.year march.date.month := by
  have number : march.dayOfYear = (153 * march.month + 2) / 5 + march.day - 1 := rfl
  rw [← Int.ofNat_le, march.day_date, march.monthLength_date]
  split
  · rename_i final
    split
    · have most := yearStart_succ_le march.year
      omega
    · rename_i common
      have short : march.dayOfYear ≠ 365 := fun last => common (isLeap_of_last (last ▸ within))
      have most := yearStart_succ_le march.year
      omega
  · omega

theorem isValid_date (march : MarchDate)
    (short : march.date.day ≤ monthLength march.date.year march.date.month) :
    march.date.isValid = true := by
  obtain ⟨cycles, year, month, day, yearRange, monthRange, dayRange⟩ := march
  rw [isValid, decide_eq_true_iff]
  revert short
  unfold MarchDate.date
  dsimp only
  split
  all_goals
    dsimp only
    omega

/-! ### Dates -/

theorem dayOfYear_range {day : Int} (first : 0 ≤ day) (last : day < cycle) :
    0 ≤ day - yearStart (yearOn day) ∧ day - yearStart (yearOn day) ≤ 365 := by
  have start := yearStart_le first last
  have finish := lt_yearStart first last
  have most := yearStart_succ_le (yearOn day)
  omega

/-- The month and the day of the month that are found for a day of the year. -/
theorem month_range {dayOfYear : Int} (range : 0 ≤ dayOfYear ∧ dayOfYear ≤ 365) :
    (0 ≤ (5 * dayOfYear + 2) / 153 ∧ (5 * dayOfYear + 2) / 153 ≤ 11) ∧
      1 ≤ dayOfYear - (153 * ((5 * dayOfYear + 2) / 153) + 2) / 5 + 1 := by
  omega

/-- The date of a day of four centuries, some times four centuries later. -/
def MarchDate.onDay (cycles day : Int) (first : 0 ≤ day) (last : day < cycle) : MarchDate where
  cycles := cycles
  year := yearOn day
  month := (5 * (day - yearStart (yearOn day)) + 2) / 153
  day :=
    day - yearStart (yearOn day) -
    (153 * ((5 * (day - yearStart (yearOn day)) + 2) / 153) + 2) / 5 + 1
  yearRange := yearOn_range first last
  monthRange := (month_range (dayOfYear_range first last)).1
  dayRange := (month_range (dayOfYear_range first last)).2

namespace MarchDate

variable {cycles day : Int} {first : 0 ≤ day} {last : day < cycle}

theorem dayOfYear_onDay :
    (onDay cycles day first last).dayOfYear = day - yearStart (yearOn day) := by
  unfold dayOfYear onDay
  dsimp only
  omega

theorem days_onDay : (onDay cycles day first last).days = cycles * cycle + day - epoch := by
  have plain := yearStart_of_range (yearOn_range first last)
  rw [days, dayOfYear_onDay, plain]
  unfold onDay
  dsimp only
  omega

/-- The year goes on behind the day. -/
theorem within_onDay :
    yearStart (onDay cycles day first last).year + (onDay cycles day first last).dayOfYear
    < yearStart ((onDay cycles day first last).year + 1) := by
  rw [dayOfYear_onDay]
  show yearStart (yearOn day) + _ < yearStart (yearOn day + 1)
  rw [Int.add_comm, Int.sub_add_cancel]
  exact lt_yearStart first last

theorem month_onDay :
    (onDay cycles day first last).month =
      (5 * (onDay cycles day first last).dayOfYear + 2) / 153 := by
  rw [dayOfYear_onDay]
  rfl

/-- The date of a day, from 1970, in a year from March. -/
def ofDays (days : Int) : MarchDate :=
  onDay ((days + epoch) / cycle) ((days + epoch) % cycle)
    (Int.emod_nonneg _ (Int.ne_of_gt cycle_pos))
    (Int.emod_lt_of_pos _ cycle_pos)

end MarchDate

/-- **The formulas find a date from March** and write it as one of a year from January. -/
theorem ofDays_eq (days : Int) : ofDays days = (MarchDate.ofDays days).date := by
  have first : 0 ≤ (days + epoch) % cycle := Int.emod_nonneg _ (Int.ne_of_gt cycle_pos)
  have plain := yearStart_of_range (yearOn_range first (Int.emod_lt_of_pos _ cycle_pos))
  simp only [MarchDate.date, MarchDate.ofDays, MarchDate.onDay, plain]
  rfl

/-- **The date of a day has the day for its number.** -/
theorem toDays_ofDays (days : Int) : (ofDays days).toDays = days := by
  rw [ofDays_eq, MarchDate.toDays_date, MarchDate.ofDays, MarchDate.days_onDay, Int.mul_comm,
    Int.mul_ediv_add_emod, Int.add_sub_cancel]

/-- **The date of a day is in the calendar.** -/
theorem isValid_ofDays (days : Int) : (ofDays days).isValid = true := by
  rw [ofDays_eq]
  exact isValid_date _ (day_le_monthLength _ MarchDate.within_onDay MarchDate.month_onDay)

end FacetQuery.CalendarDate
