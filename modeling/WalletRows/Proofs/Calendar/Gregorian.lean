import Mathlib.Algebra.BigOperators.Intervals
import Mathlib.Algebra.Order.BigOperators.Group.Finset
import Mathlib.Tactic.IntervalCases
import WalletRows.Calendar

/-!
# The Gregorian calendar

The date of a day comes from formulas for the era, the year and the month.  Here
the rules of the calendar are stated as such: which years are leap years, how
many days a month has, and which date comes after a date.  The formulas follow
them.  A date is counted back by the days of the years and of the months before
it, so no two days share a date, and the dates of successive days are successive
dates over all years, also before the year 1.
-/

namespace WalletRows

namespace Date

/-! ## The rules of the calendar -/

/-- Every fourth year is a leap year, but of the full centuries only every
fourth. -/
def IsLeapYear (year : Int) : Prop :=
  year % 4 = 0 ∧ (year % 100 = 0 → year % 400 = 0)

instance (year : Int) : Decidable (IsLeapYear year) :=
  inferInstanceAs (Decidable (_ ∧ _))

def leapDays (year : Int) : Nat :=
  if IsLeapYear year then 1 else 0

def monthLength (year : Int) (month : Nat) : Nat :=
  if month = 2 then 28 + leapDays year
  else if month ∈ [4, 6, 9, 11] then 30
  else 31

/-- A date that the calendar has. -/
structure IsDay (date : Date) : Prop where
  month_pos : 1 ≤ date.month
  month_le : date.month ≤ 12
  day_pos : 1 ≤ date.day
  day_le : date.day ≤ monthLength date.year date.month

def next (date : Date) : Date :=
  if date.day < monthLength date.year date.month then
    ⟨date.year, date.month, date.day + 1⟩
  else if date.month < 12 then
    ⟨date.year, date.month + 1, 1⟩
  else
    ⟨date.year + 1, 1, 1⟩

/-! ## Counting days -/

/-- The number of days of the years from the year 1 to a year. -/
def daysThrough (year : Int) : Int :=
  365 * year + year / 4 - year / 100 + year / 400

/-- The number of days of a year before a month. -/
def daysBefore (year : Int) (month : Nat) : Nat :=
  ∑ earlier ∈ Finset.Ico 1 month, monthLength year earlier

/-- The number of a date, counted from the first of January 1970. -/
def toDayNumber (date : Date) : Int :=
  daysThrough (date.year - 1) + daysBefore date.year date.month + date.day -
    (daysThrough 1969 + 1)

theorem leapDays_le_one (year : Int) : leapDays year ≤ 1 := by
  unfold leapDays
  split <;> decide

theorem daysThrough_succ (year : Int) :
    daysThrough (year + 1) = daysThrough year + 365 + leapDays (year + 1) := by
  unfold daysThrough leapDays
  split
  · next leap =>
    unfold IsLeapYear at leap
    omega
  · next ordinary =>
    unfold IsLeapYear at ordinary
    omega

theorem daysThrough_mono {year later : Int} (before : year ≤ later) :
    daysThrough year ≤ daysThrough later := by
  unfold daysThrough
  omega

theorem daysBefore_succ (year : Int) {month : Nat} (positive : 1 ≤ month) :
    daysBefore year (month + 1) =
      daysBefore year month + monthLength year month :=
  Finset.sum_Ico_succ_top positive _

theorem daysBefore_mono (year : Int) {month later : Nat}
    (before : month ≤ later) :
    daysBefore year month ≤ daysBefore year later :=
  Finset.sum_le_sum_of_subset (Finset.Ico_subset_Ico_right before)

/-- The days before each month, and those of a whole year behind the last. -/
theorem daysBefore_eq (year : Int) {month : Nat} (positive : 1 ≤ month)
    (within : month ≤ 13) :
    daysBefore year month =
      [0, 31, 59, 90, 120, 151, 181, 212, 243, 273, 304, 334, 365].getD
        (month - 1) 0 + (if 2 < month then leapDays year else 0) := by
  interval_cases month <;>
    simp [daysBefore, Finset.sum_Ico_succ_top, monthLength] <;> omega

theorem daysBefore_end (year : Int) :
    daysBefore year 13 = 365 + leapDays year :=
  daysBefore_eq year (by decide) (by decide)

/-! ## From the formulas to the rules -/

/-- The year of a day of an era.  The years of an era begin in March, so that
the days are counted from the first of March of a year that 400 divides. -/
def yearOfEra (day : Nat) : Nat :=
  (day - day / 1460 + day / 36524 - day / 146096) / 365

/-- The date of a day of a year that begins in March. -/
def ofMarchDay (year : Int) (day : Nat) : Date :=
  let month := (5 * day + 2) / 153
  { year := if month < 10 then year else year + 1
    month := if month < 10 then month + 3 else month - 9
    day := day - (153 * month + 2) / 5 + 1 }

theorem yearOfEra_mono {day later : Nat} (before : day ≤ later) :
    yearOfEra day ≤ yearOfEra later := by
  induction later, before using Nat.le_induction with
  | base => exact Nat.le_refl _
  | succ later before ih =>
    refine Nat.le_trans ih ?_
    unfold yearOfEra
    omega

/-- The formula gives a year to its first and to its last day. -/
theorem yearOfEra_ends : ∀ year : Nat, year < 400 →
    yearOfEra (daysThrough year).toNat = year ∧
      yearOfEra ((daysThrough (year + 1)).toNat - 1) = year := by
  decide +kernel

/-- A day within some years is a day of one of them. -/
theorem exists_year_of_day {years day : Nat}
    (within : (day : Int) < daysThrough years) :
    ∃ year : Nat, year < years ∧ daysThrough year ≤ day ∧
      day < daysThrough (year + 1) := by
  induction years with
  | zero =>
    have none : daysThrough (0 : Nat) = 0 := rfl
    omega
  | succ years ih =>
    by_cases earlier : (day : Int) < daysThrough years
    · obtain ⟨year, small, bounds⟩ := ih earlier
      exact ⟨year, Nat.lt_succ_of_lt small, bounds⟩
    · refine ⟨years, Nat.lt_succ_self _, Int.not_lt.mp earlier, ?_⟩
      rwa [Nat.cast_succ] at within

/-- The formula gives a year to all of its days: it does so to the first and to
the last one, and never gives an earlier year to a later day. -/
theorem yearOfEra_spec {day : Nat} (within : day < 146097) :
    yearOfEra day < 400 ∧ daysThrough (yearOfEra day) ≤ day ∧
      day < daysThrough (yearOfEra day + 1) := by
  have era : daysThrough (400 : Nat) = 146097 := rfl
  have inEra : (day : Int) < daysThrough (400 : Nat) := by omega
  obtain ⟨year, small, first, last⟩ := exists_year_of_day inEra
  obtain ⟨ofFirst, ofLast⟩ := yearOfEra_ends year small
  have same : yearOfEra day = year := by
    apply Nat.le_antisymm
    · rw [← ofLast]
      exact yearOfEra_mono (by omega)
    · rw [← ofFirst]
      exact yearOfEra_mono (by omega)
  rw [same]
  exact ⟨small, first, last⟩

/-- Every era has the same number of days. -/
theorem daysThrough_add_era (year era : Int) :
    daysThrough (year + era * 400) = daysThrough year + era * daysPerEra := by
  unfold daysThrough daysPerEra
  omega

theorem daysThrough_of_lt {year : Nat} (small : year < 400) :
    (daysThrough year).toNat = 365 * year + year / 4 - year / 100 := by
  unfold daysThrough
  omega

/-- A day belongs to an era and has a number within it. -/
theorem exists_era (number : Int) :
    ∃ (era : Int) (day : Nat), number = era * daysPerEra + day ∧
      day < 146097 := by
  refine ⟨number / daysPerEra, (number % daysPerEra).toNat, ?_, ?_⟩
  all_goals
    unfold daysPerEra
    omega

/-- The date of a day is that of a day of a year that begins in March. -/
theorem ofDayNumber_eq_ofMarchDay {number era : Int} {day : Nat}
    (counted : number + daysToEpoch = era * daysPerEra + day)
    (within : day < 146097) :
    ofDayNumber number = ofMarchDay (yearOfEra day + era * 400)
      (day - (daysThrough (yearOfEra day)).toNat) := by
  have eraEq : (era * daysPerEra + day).fdiv daysPerEra = era := by
    rw [Int.fdiv_eq_ediv_of_nonneg _ (by decide)]
    unfold daysPerEra
    omega
  have dayEq : ((era * daysPerEra + day).fmod daysPerEra).toNat = day := by
    rw [Int.fmod_eq_emod_of_nonneg _ (by decide)]
    unfold daysPerEra
    omega
  obtain ⟨small, first, last⟩ := yearOfEra_spec within
  have length := daysThrough_succ (yearOfEra day)
  have leap := leapDays_le_one (yearOfEra day + 1)
  have start := daysThrough_of_lt small
  have formula : (day - day / 1460 + day / 36524 - day / 146096) / 365 =
      yearOfEra day := rfl
  rw [start]
  unfold ofDayNumber ofMarchDay
  simp only [counted, eraEq, dayEq, formula]
  congr 1
  split_ifs <;> omega

theorem exists_ofMarchDay (number : Int) :
    ∃ (year : Int) (day : Nat), number + daysToEpoch = daysThrough year + day ∧
      daysThrough year + day < daysThrough (year + 1) ∧
      ofDayNumber number = ofMarchDay year day := by
  obtain ⟨era, day, counted, within⟩ := exists_era (number + daysToEpoch)
  obtain ⟨-, first, last⟩ := yearOfEra_spec within
  have zero : daysThrough 0 = 0 := rfl
  have nonnegative : daysThrough 0 ≤ daysThrough (yearOfEra day) :=
    daysThrough_mono (Int.natCast_nonneg _)
  refine ⟨_, _, ?_, ?_, ofDayNumber_eq_ofMarchDay counted within⟩
  · rw [daysThrough_add_era]
    omega
  · rw [add_right_comm, daysThrough_add_era, daysThrough_add_era]
    omega

theorem monthLength_march (year : Int) {month : Nat} (early : month < 10) :
    monthLength year (month + 3) =
      (153 * (month + 1) + 2) / 5 - (153 * month + 2) / 5 := by
  interval_cases month <;> rfl

theorem daysBefore_march (year : Int) {month : Nat} (early : month < 10) :
    daysBefore year (month + 3) =
      59 + leapDays year + (153 * month + 2) / 5 := by
  rw [daysBefore_eq year (by omega) (by omega)]
  interval_cases month <;> simp <;> omega

/-- The day of a year that begins in March has a date, and the date is counted
back to the day. -/
theorem ofMarchDay_spec {year : Int} {day : Nat}
    (within : daysThrough year + day < daysThrough (year + 1)) :
    (ofMarchDay year day).IsDay ∧
      (ofMarchDay year day).toDayNumber + daysToEpoch =
        daysThrough year + day := by
  have epoch : daysToEpoch = daysThrough 1969 + 306 := rfl
  have previous := daysThrough_succ (year - 1)
  rw [sub_add_cancel] at previous
  rw [daysThrough_succ] at within
  have leap := leapDays_le_one (year + 1)
  obtain ⟨month, monthEq⟩ : ∃ month, month = (5 * day + 2) / 153 := ⟨_, rfl⟩
  have begun : (153 * month + 2) / 5 ≤ day := by omega
  have ended : day < (153 * (month + 1) + 2) / 5 := by omega
  have bound : month < 12 := by omega
  unfold ofMarchDay toDayNumber
  simp only [← monthEq]
  clear monthEq
  by_cases early : month < 10
  · have length := monthLength_march year early
    have before := daysBefore_march year early
    simp only [early, if_true]
    refine ⟨⟨?_, ?_, ?_, ?_⟩, ?_⟩
    all_goals
      simp only [length, before]
      omega
  -- January and February belong to the year after.
  · simp only [early, if_false]
    obtain rfl | rfl : month = 10 ∨ month = 11 := by omega
    · have length : monthLength (year + 1) 1 = 31 := rfl
      have before : daysBefore (year + 1) 1 = 0 := rfl
      refine ⟨⟨?_, ?_, ?_, ?_⟩, ?_⟩
      all_goals
        simp only [Nat.reduceSub, length, before, add_sub_cancel_right]
        omega
    · have length : monthLength (year + 1) 2 = 28 + leapDays (year + 1) := rfl
      have before : daysBefore (year + 1) 2 = 31 := rfl
      refine ⟨⟨?_, ?_, ?_, ?_⟩, ?_⟩
      all_goals
        simp only [Nat.reduceSub, length, before, add_sub_cancel_right]
        omega

/-! ## Days and their dates -/

theorem isDay_ofDayNumber (number : Int) : (ofDayNumber number).IsDay := by
  obtain ⟨year, day, -, within, same⟩ := exists_ofMarchDay number
  rw [same]
  exact (ofMarchDay_spec within).1

theorem toDayNumber_ofDayNumber (number : Int) :
    (ofDayNumber number).toDayNumber = number := by
  obtain ⟨year, day, counted, within, same⟩ := exists_ofMarchDay number
  have back := (ofMarchDay_spec within).2
  rw [same]
  omega

/-- No two days share a date. -/
theorem ofDayNumber_inj {first second : Int} :
    ofDayNumber first = ofDayNumber second ↔ first = second := by
  constructor
  · intro same
    rw [← toDayNumber_ofDayNumber first, same, toDayNumber_ofDayNumber]
  · rintro rfl
    rfl

/-- The days of a year lie between those of the years before and after it. -/
theorem IsDay.bounds {date : Date} (isDay : date.IsDay) :
    daysThrough (date.year - 1) ≤ date.toDayNumber + daysThrough 1969 ∧
      date.toDayNumber + daysThrough 1969 < daysThrough date.year := by
  have months := daysBefore_mono date.year (Nat.succ_le_succ isDay.month_le)
  rw [daysBefore_succ _ isDay.month_pos, daysBefore_end] at months
  have length := daysThrough_succ (date.year - 1)
  rw [sub_add_cancel] at length
  have positive := isDay.day_pos
  have within := isDay.day_le
  unfold toDayNumber
  omega

section Order

variable {first second : Date} (isDay : first.IsDay) (other : second.IsDay)
variable (before : first.toDayNumber ≤ second.toDayNumber)

include isDay other before

theorem IsDay.year_le_year : first.year ≤ second.year := by
  by_contra later
  have years := daysThrough_mono (Int.le_sub_one_of_lt (Int.not_le.mp later))
  have lower := isDay.bounds
  have upper := other.bounds
  omega

theorem IsDay.month_le_month (year : first.year = second.year) :
    first.month ≤ second.month := by
  by_contra later
  have months := daysBefore_mono second.year
    (Nat.succ_le_of_lt (Nat.not_le.mp later))
  rw [Nat.succ_eq_add_one, daysBefore_succ _ other.month_pos] at months
  have positive := isDay.day_pos
  have within := other.day_le
  unfold toDayNumber at before
  rw [year] at before
  omega

end Order

/-- No two dates are those of one day. -/
theorem IsDay.eq_of_toDayNumber_eq {first second : Date} (isDay : first.IsDay)
    (other : second.IsDay) (same : first.toDayNumber = second.toDayNumber) :
    first = second := by
  have year : first.year = second.year :=
    Int.le_antisymm (isDay.year_le_year other same.le)
      (other.year_le_year isDay same.ge)
  have month : first.month = second.month :=
    Nat.le_antisymm (isDay.month_le_month other same.le year)
      (other.month_le_month isDay same.ge year.symm)
  have day : first.day = second.day := by
    unfold toDayNumber at same
    rw [year, month] at same
    omega
  change (⟨first.year, first.month, first.day⟩ : Date) =
    ⟨second.year, second.month, second.day⟩
  rw [year, month, day]

theorem monthLength_pos (year : Int) (month : Nat) :
    1 ≤ monthLength year month := by
  unfold monthLength
  split_ifs <;> omega

theorem IsDay.next {date : Date} (isDay : date.IsDay) : date.next.IsDay := by
  unfold Date.next
  split_ifs with sameMonth sameYear
  · exact ⟨isDay.month_pos, isDay.month_le, Nat.le_add_left _ _, sameMonth⟩
  · exact ⟨Nat.le_add_left _ _, sameYear, Nat.le_refl _, monthLength_pos _ _⟩
  · exact ⟨Nat.le_refl _, Nat.le_add_left 1 11, Nat.le_refl _,
      monthLength_pos _ _⟩

theorem IsDay.toDayNumber_next {date : Date} (isDay : date.IsDay) :
    date.next.toDayNumber = date.toDayNumber + 1 := by
  have day : date.day ≤ monthLength date.year date.month := isDay.day_le
  have month := daysBefore_succ date.year isDay.month_pos
  unfold Date.next
  split_ifs with sameMonth sameYear
  · simp only [toDayNumber]
    omega
  · simp only [toDayNumber, month]
    omega
  · have december : date.month = 12 := by
      have := isDay.month_le
      omega
    have length := daysThrough_succ (date.year - 1)
    have start : daysBefore (date.year + 1) 1 = 0 := rfl
    rw [sub_add_cancel] at length
    rw [december, daysBefore_end] at month
    rw [december] at sameMonth day
    simp only [toDayNumber, december, start, add_sub_cancel_right]
    omega

/-- Every date of the calendar is that of a day. -/
theorem IsDay.ofDayNumber_toDayNumber {date : Date} (isDay : date.IsDay) :
    ofDayNumber date.toDayNumber = date :=
  (isDay_ofDayNumber _).eq_of_toDayNumber_eq isDay (toDayNumber_ofDayNumber _)

/-- The dates of successive days are successive dates of the calendar. -/
theorem ofDayNumber_succ (number : Int) :
    ofDayNumber (number + 1) = (ofDayNumber number).next := by
  have isDay := isDay_ofDayNumber number
  rw [← isDay.next.ofDayNumber_toDayNumber, isDay.toDayNumber_next,
    toDayNumber_ofDayNumber]

example : ofDayNumber 0 = ⟨1970, 1, 1⟩ := by decide

end Date

end WalletRows
