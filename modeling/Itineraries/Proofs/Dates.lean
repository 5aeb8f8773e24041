import Mathlib.Tactic.IntervalCases
import Itineraries.Time.Calendar

namespace Itineraries
namespace Time
namespace Date

/-!
# Days and their dates

The date of a day is one that the calendar has, and it has the number of that day.

A cycle of four hundred years falls into centuries, these into groups of four years,
and these into years.  All centuries but the last lack a leap day, and so do all years
of a group but the last, so a day of the cycle is told by four numbers of which only the
last may be as large as 365, and then only in a leap year.
-/

/-- A day of a cycle, told by its century, its group of four years, its year and its
number within the year. -/
structure CycleDay where
  century : Int
  group : Int
  year : Int
  day : Int
  century_range : 0 ≤ century ∧ century ≤ 3
  group_range : 0 ≤ group ∧ group ≤ 24
  year_range : 0 ≤ year ∧ year ≤ 3
  day_range : 0 ≤ day ∧ day ≤ 365
  leap : day = 365 → year = 3 ∧ (group < 24 ∨ century = 3)

namespace CycleDay

/-- The number of the day in its cycle. -/
def number (parts : CycleDay) : Int :=
  36524 * parts.century + 1461 * parts.group + 365 * parts.year + parts.day

/-- The number of its year in the cycle. -/
def yearOfCycle (parts : CycleDay) : Int :=
  100 * parts.century + 4 * parts.group + parts.year

/-- Every day of a cycle can be told so. -/
theorem exists_number_eq {day : Int} (first : 0 ≤ day) (last : day < cycleDays) :
    ∃ parts : CycleDay, parts.number = day := by
  have last : day < 146097 := last
  let century := min (day / 36524) 3
  let inCentury := day - 36524 * century
  let group := min (inCentury / 1461) 24
  let inGroup := inCentury - 1461 * group
  let year := min (inGroup / 365) 3
  refine ⟨⟨century, group, year, inGroup - 365 * year, ?_, ?_, ?_, ?_, ?_⟩, ?_⟩
  all_goals simp only [number, century, group, year, inCentury, inGroup]
  all_goals omega

/-- Whole centuries are counted in one too many on the last day of the cycle, and that
day is the only one on which a whole cycle seems to have passed. -/
theorem centuries_passed {century rest : Int} (centuries : 0 ≤ century ∧ century ≤ 3)
    (bounds : 0 ≤ rest ∧ (rest < 36524 ∨ rest = 36524 ∧ century = 3)) :
    (36524 * century + rest) / 36524 - (36524 * century + rest) / 146096 = century := by
  rcases bounds with ⟨first, within | ⟨last, fourth⟩⟩
  · omega
  · omega

/-- The year is found by taking out the leap days that have passed. -/
theorem yearOfCycle_eq (parts : CycleDay) :
    (parts.number - parts.number / 1460 + parts.number / 36524 - parts.number / 146096) / 365 =
      parts.yearOfCycle := by
  rcases parts with ⟨century, group, year, day, centuries, groups, years, days, leap⟩
  simp only [number, yearOfCycle]
  have centuriesPassed := @centuries_passed century (1461 * group + 365 * year + day) centuries
    (by omega)
  rw [← Int.add_assoc, ← Int.add_assoc] at centuriesPassed
  -- the leap day of a group is the only day on which its quotient runs ahead
  have groupsPassed : (36524 * century + 1461 * group + 365 * year + day) / 1460 =
      25 * century + group + (24 * century + group + 365 * year + day) / 1460 := by
    omega
  omega

/-- The days of a cycle before the year begins. -/
theorem number_sub_day (parts : CycleDay) :
    365 * parts.yearOfCycle + parts.yearOfCycle / 4 - parts.yearOfCycle / 100 =
      parts.number - parts.day := by
  rcases parts with ⟨century, group, year, day, centuries, groups, years, days, leap⟩
  simp only [number, yearOfCycle]
  omega

end CycleDay

/-- The month of a day of the year that begins in March, and the day of that month. -/
theorem month_range {day : Int} (first : 0 ≤ day) (last : day ≤ 365) :
    0 ≤ (5 * day + 2) / 153 ∧ (5 * day + 2) / 153 ≤ 11 ∧
      0 ≤ day - (153 * ((5 * day + 2) / 153) + 2) / 5 := by
  omega

/-- A day has a date of which the parts are known. -/
theorem exists_ofDay_eq (day : Int) :
    ∃ (cycle : Int) (parts : CycleDay), day + epoch = cycle * cycleDays + parts.number ∧
      ofDay day =
        { year := cycle * 400 + parts.yearOfCycle +
            (if (5 * parts.day + 2) / 153 < 10 then 0 else 1)
          month := (if (5 * parts.day + 2) / 153 < 10 then (5 * parts.day + 2) / 153 + 3
            else (5 * parts.day + 2) / 153 - 9).toNat
          day := (parts.day - (153 * ((5 * parts.day + 2) / 153) + 2) / 5 + 1).toNat } := by
  have positive : (0 : Int) < cycleDays := by decide
  rcases CycleDay.exists_number_eq (Int.emod_nonneg (day + epoch) (Int.ne_of_gt positive))
    (Int.emod_lt_of_pos (day + epoch) positive) with ⟨parts, number⟩
  refine ⟨(day + epoch) / cycleDays, parts, ?_, ?_⟩
  · rw [number]
    exact (Int.ediv_mul_add_emod (day + epoch) cycleDays).symm
  · have dayOfYear : parts.number - (365 * parts.yearOfCycle + parts.yearOfCycle / 4 -
        parts.yearOfCycle / 100) = parts.day := by
      rw [parts.number_sub_day]
      omega
    simp only [ofDay]
    rw [← number, parts.yearOfCycle_eq, dayOfYear]

theorem toDay_ofDay (day : Int) : (ofDay day).toDay = day := by
  rcases exists_ofDay_eq day with ⟨cycle, parts, sum, date⟩
  have start := parts.number_sub_day
  have range : 0 ≤ parts.yearOfCycle ∧ parts.yearOfCycle < 400 := by
    have centuries := parts.century_range
    have groups := parts.group_range
    have years := parts.year_range
    rw [CycleDay.yearOfCycle]
    omega
  have months := month_range parts.day_range.1 parts.day_range.2
  rw [date]
  generalize (5 * parts.day + 2) / 153 = month at months
  simp only [toDay, epoch, cycleDays] at sum ⊢
  by_cases early : month < 10
  · simp only [if_pos early]
    have named : ((month + 3).toNat : Int) = month + 3 := by omega
    rw [if_neg (by omega), named]
    have counted : (month + 3 + 9) % 12 = month := by omega
    have years : cycle * 400 + parts.yearOfCycle + 0 = cycle * 400 + parts.yearOfCycle := by omega
    rw [counted, years]
    omega
  · simp only [if_neg early]
    have named : ((month - 9).toNat : Int) = month - 9 := by omega
    rw [if_pos (by omega), named]
    have counted : (month - 9 + 9) % 12 = month := by omega
    have years : cycle * 400 + parts.yearOfCycle + 1 - 1 = cycle * 400 + parts.yearOfCycle := by
      omega
    rw [counted, years]
    omega

/-- The year behind a leap day's year, counted from March, is a leap year. -/
theorem CycleDay.isLeapYear_of_leap (cycle : Int) {parts : CycleDay} (last : parts.day = 365) :
    isLeapYear (cycle * 400 + parts.yearOfCycle + 1) = true := by
  rcases parts.leap last with ⟨year, group⟩
  have centuries := parts.century_range
  have groups := parts.group_range
  simp only [isLeapYear, yearOfCycle, year, Bool.and_eq_true, Bool.or_eq_true, beq_iff_eq,
    bne_iff_ne]
  omega

theorem exists_ofDay (day : Int) : (ofDay day).Exists := by
  rcases exists_ofDay_eq day with ⟨cycle, parts, -, date⟩
  have days := parts.day_range
  have months := month_range days.1 days.2
  have leap := parts.isLeapYear_of_leap cycle
  rw [date]
  generalize month_eq : (5 * parts.day + 2) / 153 = month at months
  rcases months with ⟨low, high, -⟩
  refine ⟨?_, ?_⟩
  · simp only
    omega
  · by_cases february : month = 11
    · subst february
      change (parts.day - 337 + 1).toNat ≤
        if isLeapYear (cycle * 400 + parts.yearOfCycle + 1) then 29 else 28
      by_cases last : parts.day = 365
      · rw [if_pos (leap last)]
        omega
      · split <;> omega
    · interval_cases month
      all_goals simp [monthLength]
      all_goals omega

end Date
end Time
end Itineraries
