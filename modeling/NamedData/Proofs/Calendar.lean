/-
The calendar and the count of days determine each other.

A century is 25 times four years less a day, four years are four times 365 days and a day, and a
cycle of 400 years is four centuries and a day.  The day that is over comes last each time, so
dividing finds the year as long as that day is kept apart (`yearOfCycle_eq`).

* `daysOfDate_dateOfDays` — the date of a day is counted as this day;
* `isValid_dateOfDays` — it is a date of the calendar;
* `year_dateOfDays` — the years of the days that can be held.
-/
import NamedData.Time.Calendar

namespace NamedData.Calendar

/-! ### Years of a cycle -/

/-- The year of a cycle that a day of the cycle lies in. Years begin in March. -/
def yearOfCycle (day : Int) : Int := (day - day / 1460 + day / 36524 - day / 146096) / 365

/-- The first day of a year of a cycle. -/
def firstDay (year : Int) : Int := 365 * year + year / 4 - year / 100

/-- The day lies in the year. The last day of a leap year is the one at the end of February. -/
structure InYear (day year : Int) : Prop where
  lower : 0 ≤ year
  upper : year ≤ 399
  first : firstDay year ≤ day
  last : day ≤ firstDay year + 365
  leap : day = firstDay year + 365 →
    (year + 1) % 4 = 0 ∧ ((year + 1) % 100 ≠ 0 ∨ (year + 1) % 400 = 0)

theorem yearOfCycle_eq {century four rest : Int} (hc : 0 ≤ century) (hc' : century ≤ 3)
    (hf : 0 ≤ four) (hr : 0 ≤ rest) (hr' : rest ≤ 1460) (hd : 1461 * four + rest ≤ 36523) :
    yearOfCycle (36524 * century + 1461 * four + rest) =
      100 * century + 4 * four + min (rest / 365) 3 := by
  have hf' : four ≤ 24 := by omega
  rw [yearOfCycle]
  generalize hday : 36524 * century + 1461 * four + rest = day
  have cycles : day / 146096 = 0 := by omega
  have centuries : day / 36524 = century := by omega
  -- leaving out one day in 1460 takes away the odd day of each four years, and late in the last of
  -- them one more, which does no harm
  obtain ⟨late, hlate⟩ : ∃ late, late = (24 * century + four + rest) / 1460 := ⟨_, rfl⟩
  have fours : day / 1460 = 25 * century + four + late := by omega
  have days : day - (25 * century + four + late) + century - 0 =
      365 * (100 * century + 4 * four) + (rest - late) := by omega
  have year : (rest - late) / 365 = min (rest / 365) 3 := by
    clear days fours centuries cycles hday
    omega
  rw [cycles, centuries, fours, days]
  omega

theorem inYear_yearOfCycle {day : Int} (lower : 0 ≤ day) (upper : day < cycleDays) :
    InYear day (yearOfCycle day) := by
  rw [cycleDays] at upper
  by_cases final : day = 146096
  · subst final
    constructor <;> decide
  · obtain ⟨century, hcentury⟩ : ∃ c, c = day / 36524 := ⟨_, rfl⟩
    obtain ⟨four, hfour⟩ : ∃ f, f = day % 36524 / 1461 := ⟨_, rfl⟩
    obtain ⟨rest, hrest⟩ : ∃ r, r = day % 36524 % 1461 := ⟨_, rfl⟩
    have split : day = 36524 * century + 1461 * four + rest := by omega
    have hc : 0 ≤ century ∧ century ≤ 3 := by omega
    have hr : 0 ≤ rest ∧ rest ≤ 1460 := by omega
    have hf : 0 ≤ four ∧ 1461 * four + rest ≤ 36523 := by omega
    have year := yearOfCycle_eq hc.1 hc.2 hf.1 hr.1 hr.2 hf.2
    rw [← split] at year
    clear hcentury hfour hrest final lower upper
    have first : firstDay (yearOfCycle day) =
        36524 * century + 1461 * four + 365 * min (rest / 365) 3 := by
      rw [firstDay, year]
      omega
    constructor
    · omega
    · omega
    · omega
    · omega
    · intro last
      omega

/-! ### Dates -/

/-- The day with the number is the given one of a year of a cycle, and lies in the given month of
this year; days and months are counted from 0. -/
structure Placed (number cycle year day month : Int) : Prop where
  inYear : InYear (firstDay year + day) year
  inMonth : month = (5 * day + 2) / 153
  counted : number = cycle * cycleDays + firstDay year + day - daysBeforeEpoch
  /-- January and February are the last two months of a year that begins in March. -/
  date : dateOfDays number = ⟨if month < 10 then cycle * 400 + year else cycle * 400 + year + 1,
    (if month < 10 then month + 3 else month - 9).toNat, (day - (153 * month + 2) / 5 + 1).toNat⟩

theorem exists_placed (number : Int) :
    ∃ cycle year day month, Placed number cycle year day month := by
  obtain ⟨cycle, hcycle⟩ : ∃ c, c = (number + daysBeforeEpoch) / cycleDays := ⟨_, rfl⟩
  obtain ⟨dayOfCycle, hdayOfCycle⟩ : ∃ d, d = (number + daysBeforeEpoch) % cycleDays := ⟨_, rfl⟩
  obtain ⟨year, hyear⟩ : ∃ y, y = yearOfCycle dayOfCycle := ⟨_, rfl⟩
  obtain ⟨day, hday⟩ : ∃ d, d = dayOfCycle - firstDay year := ⟨_, rfl⟩
  obtain ⟨month, hmonth⟩ : ∃ m, m = (5 * day + 2) / 153 := ⟨_, rfl⟩
  have whole : firstDay year + day = dayOfCycle := by omega
  have inYear : InYear (firstDay year + day) year := by
    rw [whole, hyear, hdayOfCycle]
    exact inYear_yearOfCycle (Int.emod_nonneg _ (by decide)) (Int.emod_lt_of_pos _ (by decide))
  have date : dateOfDays number =
      ⟨if (if month < 10 then month + 3 else month - 9) ≤ 2 then cycle * 400 + year + 1
        else cycle * 400 + year,
        (if month < 10 then month + 3 else month - 9).toNat,
        (day - (153 * month + 2) / 5 + 1).toNat⟩ := by
    rw [hmonth, hday, hyear, hcycle, hdayOfCycle]
    rfl
  refine ⟨cycle, year, day, month, inYear, hmonth, ?_, ?_⟩
  · have := Int.ediv_mul_add_emod (number + daysBeforeEpoch) cycleDays
    rw [← hcycle, ← hdayOfCycle] at this
    omega
  · obtain ⟨-, -, first, last, -⟩ := inYear
    have range : 0 ≤ month ∧ month ≤ 11 := by omega
    rw [date]
    by_cases spring : month < 10
    · have calendar : ¬month + 3 ≤ 2 := by omega
      simp only [if_pos spring, if_neg calendar]
    · have calendar : month - 9 ≤ 2 := by omega
      simp only [if_neg spring, if_pos calendar]

theorem daysOfDate_dateOfDays (number : Int) : daysOfDate (dateOfDays number) = number := by
  obtain ⟨cycle, year, day, month, ⟨⟨lower, upper, first, last, -⟩, inMonth, counted, date⟩⟩ :=
    exists_placed number
  have range : 0 ≤ month ∧ month ≤ 11 := by omega
  have dayOfYear : (153 * month + 2) / 5 + (day - (153 * month + 2) / 5 + 1).toNat - 1 = day := by
    omega
  have cycleYear : (cycle * 400 + year) % 400 = year ∧ (cycle * 400 + year) / 400 = cycle := by
    omega
  rw [date, daysOfDate, counted, firstDay]
  by_cases spring : month < 10
  · have calendar : ¬(month + 3).toNat ≤ 2 := by omega
    have back : (((month + 3).toNat : Int) + 9) % 12 = month := by omega
    simp only [if_pos spring, if_neg calendar, back, dayOfYear, cycleYear]
    omega
  · have calendar : (month - 9).toNat ≤ 2 := by omega
    have back : (((month - 9).toNat : Int) + 9) % 12 = month := by omega
    simp only [if_neg spring, if_pos calendar, Int.add_sub_cancel, back, dayOfYear, cycleYear]
    omega

theorem daysInMonth_le (year : Int) (month : Nat) : daysInMonth year month ≤ 31 := by
  rw [daysInMonth]
  split
  · split <;> decide
  split
  · decide
  · decide

theorem InYear.isLeapYear {year : Int} (h : InYear (firstDay year + 365) year) (cycle : Int) :
    isLeapYear (cycle * 400 + year + 1) = true := by
  obtain ⟨four, century⟩ := h.leap rfl
  simp only [Calendar.isLeapYear, Bool.and_eq_true, Bool.or_eq_true, beq_iff_eq, bne_iff_ne]
  omega

theorem isValid_dateOfDays (number : Int) : isValid (dateOfDays number) = true := by
  obtain ⟨cycle, year, day, month, ⟨inYear, inMonth, counted, date⟩⟩ := exists_placed number
  have first := inYear.first
  have last := inYear.last
  rw [date, isValid]
  by_cases extra : day = 365
  · -- the last day of a leap year
    subst extra
    subst inMonth
    simp [daysInMonth, inYear.isLeapYear]
  · have months : month = 0 ∨ month = 1 ∨ month = 2 ∨ month = 3 ∨ month = 4 ∨ month = 5 ∨
        month = 6 ∨ month = 7 ∨ month = 8 ∨ month = 9 ∨ month = 10 ∨ month = 11 := by omega
    have february : 28 ≤ if isLeapYear (cycle * 400 + year + 1) = true then 29 else 28 := by
      split <;> decide
    rcases months with rfl | rfl | rfl | rfl | rfl | rfl | rfl | rfl | rfl | rfl | rfl | rfl <;>
    · simp [daysInMonth]
      omega

theorem year_dateOfDays {number : Int} (lower : -96465292 ≤ number) (upper : number ≤ 95026236) :
    -262143 ≤ (dateOfDays number).year ∧ (dateOfDays number).year ≤ 262142 := by
  obtain ⟨cycle, year, day, month, ⟨⟨low, high, first, last, -⟩, inMonth, counted, date⟩⟩ :=
    exists_placed number
  have lowCycle : -656 ≤ cycle := by rw [cycleDays, daysBeforeEpoch, firstDay] at counted; omega
  have highCycle : cycle ≤ 655 := by rw [cycleDays, daysBeforeEpoch, firstDay] at counted; omega
  have beginning : cycle = -656 → 256 ≤ year ∧ (month < 10 → 257 ≤ year) := by
    rintro rfl
    rw [cycleDays, daysBeforeEpoch, firstDay] at counted
    omega
  have ending : cycle = 655 → year ≤ 142 ∧ (10 ≤ month → year ≤ 141) := by
    rintro rfl
    rw [cycleDays, daysBeforeEpoch, firstDay] at counted
    omega
  rw [date]
  clear counted inMonth date first last lower upper
  dsimp only
  split
  · omega
  · omega

end NamedData.Calendar
