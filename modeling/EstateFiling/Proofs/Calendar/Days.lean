import Mathlib.Algebra.GroupWithZero.Nat
import EstateFiling.Proofs.Calendar.Text

/-!
# Day numbers

A day number is a date and a date a day number, over the whole range of the calendar
(`Date.ofDayNumber?_eq_some_iff`, `Date.exists_dayNumber_iff`).  Both ways go through the
year, of which a number of days have passed, and then through the month.

*Years.*  A year is a place in a cycle of 400 years: a century, a group of four years in it,
and a year of the group.  From these the leap years and the days before a year are linear
(`Date.isLeapYear_of_parts`, `Date.daysBeforeYear_of_parts`).

*Months.*  A day of a year is a place in a list of months, each with its length
(`Date.monthOfDay_sum`, `Date.exists_monthOfDay`).

The numbers count: the calendar goes to the next day of the month, to the first of the next
month or to New Year's Day exactly where the number goes up by one (`Date.nextDay_iff`).  So
a number of days later is as many steps of the calendar (`Date.daysAfter_iff`).
-/

namespace EstateFiling.Date

/-! ## Years -/

/-- The days of a year. -/
def daysInYear (year : Int) : Nat := if isLeapYear year then 366 else 365

theorem isLeapYear_iff (year : Int) :
    isLeapYear year = true ↔ year % 4 = 0 ∧ (year % 100 ≠ 0 ∨ year % 400 = 0) := by
  simp [isLeapYear]

section Parts

variable {century group year : Int} (cycle : Int) (hcentury : 0 ≤ century ∧ century ≤ 3)
  (hgroup : 0 ≤ group ∧ group ≤ 24) (hyear : 0 ≤ year ∧ year ≤ 3)

include hcentury hgroup hyear

theorem daysBeforeYear_of_parts :
    daysBeforeYear (400 * cycle + 100 * century + 4 * group + year + 1)
      = 146097 * cycle + 36524 * century + 1461 * group + 365 * year := by
  unfold daysBeforeYear
  omega

/-- The last year of a group has a leap day, except in the last group of a century that is
not the last. -/
theorem isLeapYear_of_parts :
    isLeapYear (400 * cycle + 100 * century + 4 * group + year + 1) = true
      ↔ year = 3 ∧ (group = 24 → century = 3) := by
  rw [isLeapYear_iff]
  omega

end Parts

/-- The year of a day, and how much of it has passed. -/
theorem yearOfDay_spec (n : Int) :
    daysBeforeYear (yearOfDay n).1 + (yearOfDay n).2 = n
      ∧ (yearOfDay n).2 < daysInYear (yearOfDay n).1 := by
  unfold yearOfDay
  dsimp only
  generalize hcycle : n / 146097 = cycle
  generalize hinCycle : n % 146097 = inCycle
  generalize hcentury : min (inCycle / 36524) 3 = century
  generalize hinCentury : inCycle - 36524 * century = inCentury
  generalize hgroup : inCentury / 1461 = group
  generalize hinGroup : inCentury % 1461 = inGroup
  generalize hyear : min (inGroup / 365) 3 = year
  have century_le : 0 ≤ century ∧ century ≤ 3 := by omega
  have inCentury_le : 0 ≤ inCentury ∧ inCentury ≤ 36524 ∧ (inCentury = 36524 → century = 3) := by
    omega
  have group_le : 0 ≤ group ∧ group ≤ 24 := by omega
  have year_le : 0 ≤ year ∧ year ≤ 3 := by omega
  have leap := isLeapYear_of_parts cycle century_le group_le year_le
  rw [daysBeforeYear_of_parts cycle century_le group_le year_le]
  simp only [daysInYear, leap]
  split <;> omega

/-- The years follow each other. -/
theorem daysBeforeYear_succ (year : Int) :
    daysBeforeYear (year + 1) = daysBeforeYear year + daysInYear year := by
  simp only [daysInYear, isLeapYear_iff]
  unfold daysBeforeYear
  split <;> omega

theorem daysBeforeYear_le {a b : Int} (h : a ≤ b) : daysBeforeYear a ≤ daysBeforeYear b := by
  unfold daysBeforeYear
  omega

/-- A day belongs to one year. -/
theorem year_unique {a b : Int} {before other : Nat} (ha : before < daysInYear a)
    (hb : other < daysInYear b) (same : daysBeforeYear a + before = daysBeforeYear b + other) :
    a = b ∧ before = other := by
  have apart : ∀ x y : Int, x < y → daysBeforeYear x + daysInYear x ≤ daysBeforeYear y := by
    intro x y h
    rw [← daysBeforeYear_succ]
    exact daysBeforeYear_le h
  rcases Int.lt_trichotomy a b with h | rfl | h
  · have := apart a b h
    omega
  · omega
  · have := apart b a h
    omega

theorem yearOfDay_eq {year : Int} {before : Nat} (h : before < daysInYear year) :
    yearOfDay (daysBeforeYear year + before) = (year, before) := by
  obtain ⟨number, inYear⟩ := yearOfDay_spec (daysBeforeYear year + before)
  obtain ⟨same, passed⟩ := year_unique inYear h number
  exact Prod.ext same passed

/-! ## Months -/

theorem sum_monthLengths (year : Int) : (monthLengths (isLeapYear year)).sum = daysInYear year := by
  unfold daysInYear
  cases isLeapYear year <;> rfl

theorem daysBeforeMonth_succ (year : Int) (i : Nat) :
    daysBeforeMonth year (i + 1) = ((monthLengths (isLeapYear year)).take i).sum := by
  rw [daysBeforeMonth, Nat.add_sub_cancel, ← List.sum_eq_foldl]

theorem daysInMonth_succ (year : Int) (i : Nat) :
    daysInMonth year (i + 1) = ((monthLengths (isLeapYear year))[i]?).getD 0 := rfl

/-- A month that has days is one of the list. -/
theorem exists_month {year : Int} {month day : Nat} (h : 1 ≤ day ∧ day ≤ daysInMonth year month) :
    ∃ i, month = i + 1
      ∧ (monthLengths (isLeapYear year))[i]? = some (daysInMonth year month) := by
  cases month with
  | zero => exact absurd h.2 (by rw [daysInMonth]; exact Nat.not_le.mpr h.1)
  | succ i =>
    refine ⟨i, rfl, ?_⟩
    rw [daysInMonth_succ] at h ⊢
    cases found : (monthLengths (isLeapYear year))[i]? with
    | some length => rfl
    | none =>
      rw [found] at h
      exact absurd h.2 (Nat.not_le.mpr h.1)

/-- A day of a month is found by the days before it. -/
theorem monthOfDay_sum {lengths : List Nat} {i length before : Nat}
    (found : lengths[i]? = some length) (inMonth : before < length) (month : Nat) :
    monthOfDay lengths month ((lengths.take i).sum + before) = (month + i, before + 1) := by
  induction lengths generalizing i month with
  | nil => cases found
  | cons first rest ih =>
    cases i with
    | zero =>
      obtain rfl : first = length := Option.some.inj found
      rw [List.take_zero, List.sum_nil, Nat.zero_add, monthOfDay, if_pos inMonth]
      rfl
    | succ i =>
      have later : ¬ first + (rest.take i).sum + before < first := by omega
      have left : first + (rest.take i).sum + before - first = (rest.take i).sum + before := by
        omega
      rw [List.take_succ_cons, List.sum_cons, monthOfDay, if_neg later, left,
        ih (by simpa using found), Nat.add_assoc, Nat.add_comm 1]

/-- What is found is a day of a month, and the days before it are counted. -/
theorem exists_monthOfDay {lengths : List Nat} {passed : Nat} (inYear : passed < lengths.sum)
    (month : Nat) :
    ∃ i length before, lengths[i]? = some length ∧ before < length
      ∧ (lengths.take i).sum + before = passed
      ∧ monthOfDay lengths month passed = (month + i, before + 1) := by
  induction lengths generalizing month passed with
  | nil => exact absurd inYear (Nat.not_lt_zero _)
  | cons first rest ih =>
    by_cases early : passed < first
    · refine ⟨0, first, passed, rfl, early, Nat.zero_add passed, ?_⟩
      rw [monthOfDay, if_pos early]
      rfl
    · rw [List.sum_cons] at inYear
      obtain ⟨i, length, before, found, inMonth, days, located⟩ :=
        ih (by omega : passed - first < rest.sum) (month + 1)
      refine ⟨i + 1, length, before, found, inMonth, ?_, ?_⟩
      · rw [List.take_succ_cons, List.sum_cons]
        omega
      · rw [monthOfDay, if_neg early, located, Nat.add_assoc, Nat.add_comm 1]

/-! ## Dates and their numbers -/

/-- The first date of the calendar. -/
def first : Date := ⟨-262143, 1, 1, by decide, by decide⟩

/-- The last date of the calendar. -/
def last : Date := ⟨262142, 12, 31, by decide, by decide⟩

/-- A date is a day of one of the months of its year. -/
theorem exists_place (d : Date) :
    ∃ i before, d.month = i + 1 ∧ d.day = before + 1
      ∧ (monthLengths (isLeapYear d.year))[i]? = some (daysInMonth d.year d.month)
      ∧ before < daysInMonth d.year d.month
      ∧ d.dayNumber = daysBeforeYear d.year
        + (((monthLengths (isLeapYear d.year)).take i).sum + before : Nat) := by
  obtain ⟨positive, inMonth⟩ := d.dayInMonth
  obtain ⟨i, month, found⟩ := exists_month d.dayInMonth
  refine ⟨i, d.day - 1, month, (Nat.sub_add_cancel positive).symm, found, by omega, ?_⟩
  rw [dayNumber, month, daysBeforeMonth_succ, Int.natCast_add, Int.add_assoc]

theorem take_sum_lt {lengths : List Nat} {i length before : Nat}
    (found : lengths[i]? = some length) (inMonth : before < length) :
    (lengths.take i).sum + before < lengths.sum := by
  obtain ⟨hi, rfl⟩ := List.getElem?_eq_some_iff.mp found
  have split := List.take_append_drop i lengths
  rw [List.drop_eq_getElem_cons hi] at split
  have total := congrArg List.sum split
  rw [List.sum_append, List.sum_cons] at total
  omega

/-- The number of a date's day finds the date. -/
theorem ofDayNumber?_dayNumber (d : Date) : ofDayNumber? d.dayNumber = some d := by
  obtain ⟨i, before, month, day, found, inMonth, number⟩ := d.exists_place
  have inYear := take_sum_lt found inMonth
  rw [sum_monthLengths] at inYear
  rw [ofDayNumber?, number, yearOfDay_eq inYear]
  dsimp only
  rw [monthOfDay_sum found inMonth, ← day, Nat.add_comm 1, ← month]
  exact d.ofCivil?_eq_self

/-- No two dates have the same number. -/
theorem dayNumber_injective {d e : Date} (same : d.dayNumber = e.dayNumber) : d = e := by
  have found := d.ofDayNumber?_dayNumber
  rw [same, e.ofDayNumber?_dayNumber] at found
  exact (Option.some.inj found).symm

/-- In the range of the calendar each number is a date's. -/
theorem exists_dayNumber_of_yearInRange {n : Int}
    (range : -262143 ≤ (yearOfDay n).1 ∧ (yearOfDay n).1 ≤ 262142) :
    ∃ d : Date, d.dayNumber = n := by
  obtain ⟨number, inYear⟩ := yearOfDay_spec n
  rw [← sum_monthLengths] at inYear
  obtain ⟨i, length, before, found, inMonth, days, -⟩ := exists_monthOfDay inYear 1
  have dayInMonth : 1 ≤ before + 1 ∧ before + 1 ≤ daysInMonth (yearOfDay n).1 (i + 1) := by
    rw [daysInMonth_succ, found, Option.getD_some]
    omega
  refine ⟨⟨(yearOfDay n).1, i + 1, before + 1, range, dayInMonth⟩, ?_⟩
  rw [dayNumber, daysBeforeMonth_succ, Nat.add_sub_cancel, Int.add_assoc, ← Int.natCast_add, days,
    number]

/-- The number of a date lies in its year. -/
theorem dayNumber_inYear (d : Date) :
    daysBeforeYear d.year ≤ d.dayNumber ∧ d.dayNumber < daysBeforeYear (d.year + 1) := by
  obtain ⟨i, before, -, -, found, inMonth, number⟩ := d.exists_place
  have inYear := take_sum_lt found inMonth
  rw [sum_monthLengths] at inYear
  rw [daysBeforeYear_succ, number]
  omega

theorem daysBeforeYear_first : daysBeforeYear (-262143) = first.dayNumber := by decide

theorem daysBeforeYear_afterLast : daysBeforeYear (262142 + 1) = last.dayNumber + 1 := by decide

/-- The numbers of the dates are those from the first date to the last. -/
theorem exists_dayNumber_iff (n : Int) :
    (∃ d : Date, d.dayNumber = n) ↔ first.dayNumber ≤ n ∧ n ≤ last.dayNumber := by
  rw [← Int.lt_add_one_iff (b := last.dayNumber), ← daysBeforeYear_first,
    ← daysBeforeYear_afterLast]
  constructor
  · rintro ⟨d, rfl⟩
    obtain ⟨starts, ends⟩ := d.dayNumber_inYear
    obtain ⟨lower, upper⟩ := d.yearInRange
    exact ⟨Int.le_trans (daysBeforeYear_le lower) starts,
      Int.lt_of_lt_of_le ends (daysBeforeYear_le (Int.add_le_add_right upper 1))⟩
  · rintro ⟨lower, upper⟩
    obtain ⟨number, inYear⟩ := yearOfDay_spec n
    have next := daysBeforeYear_succ (yearOfDay n).1
    refine exists_dayNumber_of_yearInRange ⟨Int.not_lt.mp fun early => ?_,
      Int.not_lt.mp fun late => ?_⟩
    · have := daysBeforeYear_le early
      omega
    · have := daysBeforeYear_le late
      omega

theorem yearInRange_of_ofCivil? {year : Int} {month day : Nat} {d : Date}
    (h : ofCivil? year month day = some d) : -262143 ≤ year ∧ year ≤ 262142 := by
  unfold ofCivil? at h
  split at h
  · assumption
  · cases h

/-- A number finds exactly the date with this number. -/
theorem ofDayNumber?_eq_some_iff {n : Int} {d : Date} :
    ofDayNumber? n = some d ↔ d.dayNumber = n := by
  constructor
  · intro found
    obtain ⟨e, rfl⟩ := exists_dayNumber_of_yearInRange (yearInRange_of_ofCivil? found)
    rw [ofDayNumber?_dayNumber] at found
    rw [Option.some.inj found]
  · rintro rfl
    exact d.ofDayNumber?_dayNumber

/-! ## Counting -/

/-- The day after a date. -/
inductive NextDay (d e : Date) : Prop
  /-- The next day of the month. -/
  | day : e.year = d.year → e.month = d.month → e.day = d.day + 1 → NextDay d e
  /-- The first of the next month, after the last day of a month. -/
  | month : d.day = daysInMonth d.year d.month → e.year = d.year → e.month = d.month + 1 →
      e.day = 1 → NextDay d e
  /-- New Year's Day, after the last of December. -/
  | year : d.month = 12 → d.day = 31 → e.year = d.year + 1 → e.month = 1 → e.day = 1 → NextDay d e

theorem daysBeforeMonth_next {year : Int} {month day : Nat}
    (h : 1 ≤ day ∧ day ≤ daysInMonth year month) :
    daysBeforeMonth year (month + 1) = daysBeforeMonth year month + daysInMonth year month := by
  obtain ⟨i, rfl, found⟩ := exists_month h
  obtain ⟨hi, length⟩ := List.getElem?_eq_some_iff.mp found
  rw [daysBeforeMonth_succ, daysBeforeMonth_succ, List.take_succ_eq_append_getElem hi, length,
    List.sum_append, List.sum_singleton]

theorem daysBeforeMonth_december (year : Int) :
    daysBeforeMonth year 12 + 31 = daysInYear year := by
  unfold daysBeforeMonth daysInYear
  cases isLeapYear year <;> rfl

/-- The next day has the next number. -/
theorem NextDay.dayNumber_eq {d e : Date} (h : NextDay d e) : e.dayNumber = d.dayNumber + 1 := by
  have positive := d.dayInMonth.1
  unfold dayNumber
  cases h with
  | day year month day =>
    rw [year, month, day]
    omega
  | month last year month day =>
    have next := daysBeforeMonth_next d.dayInMonth
    rw [year, month, day, next, ← last]
    omega
  | year december last year month day =>
    have whole := daysBeforeMonth_december d.year
    have january : daysBeforeMonth (d.year + 1) 1 = 0 := rfl
    rw [year, month, day, december, last, daysBeforeYear_succ, january]
    omega

theorem daysInMonth_pos (year : Int) {month : Nat} (h : 1 ≤ month ∧ month ≤ 12) :
    1 ≤ daysInMonth year month := by
  have lengths : ∀ leap, ∀ month ≤ 12, 1 ≤ month →
      1 ≤ ((0 :: monthLengths leap)[month]?).getD 0 := by decide
  exact lengths _ month h.2 h.1

/-- A day other than the last has one after it. -/
theorem exists_nextDay {d : Date} (h : d.dayNumber < last.dayNumber) : ∃ e, NextDay d e := by
  obtain ⟨i, -, first, -⟩ := d.exists_place
  obtain ⟨positive, inMonth⟩ := d.dayInMonth
  by_cases within : d.day < daysInMonth d.year d.month
  · exact ⟨⟨d.year, d.month, d.day + 1, d.yearInRange, by omega⟩, .day rfl rfl rfl⟩
  have lastDay : d.day = daysInMonth d.year d.month := by omega
  by_cases early : d.month < 12
  · have monthDays := daysInMonth_pos d.year (by omega : 1 ≤ d.month + 1 ∧ d.month + 1 ≤ 12)
    exact ⟨⟨d.year, d.month + 1, 1, d.yearInRange, Nat.le_refl 1, monthDays⟩,
      .month lastDay rfl rfl rfl⟩
  have december : d.month = 12 := by
    rcases Nat.lt_or_ge d.month 13 with month | late
    · omega
    · rw [daysInMonth_of_le d.year late] at inMonth
      omega
  have last : d.day = 31 := by
    rw [lastDay, december, daysInMonth]
    cases isLeapYear d.year <;> rfl
  have notFinal : d.year ≠ 262142 := by
    intro final
    have same : d = Date.last := Date.ext final december last
    rw [same] at h
    exact Int.lt_irrefl _ h
  have range := d.yearInRange
  exact ⟨⟨d.year + 1, 1, 1, by omega, Nat.le_refl 1, daysInMonth_pos _ (by decide)⟩,
    .year december last rfl rfl rfl⟩

theorem nextDay_iff {d e : Date} : NextDay d e ↔ e.dayNumber = d.dayNumber + 1 := by
  constructor
  · exact NextDay.dayNumber_eq
  · intro next
    have bound := ((exists_dayNumber_iff _).mp ⟨e, rfl⟩).2
    obtain ⟨f, follows⟩ := exists_nextDay (d := d) (by omega)
    rwa [dayNumber_injective (next.trans follows.dayNumber_eq.symm)]

/-- A number of days after a date, one day after the other. -/
inductive DaysAfter (d : Date) : Nat → Date → Prop
  /-- The date itself. -/
  | zero : DaysAfter d 0 d
  /-- One day more. -/
  | next {n : Nat} {e f : Date} : DaysAfter d n e → NextDay e f → DaysAfter d (n + 1) f

/-- The days between two dates are the difference of their numbers. -/
theorem daysAfter_iff {d e : Date} {n : Nat} : DaysAfter d n e ↔ e.dayNumber = d.dayNumber + n := by
  constructor
  · intro after
    induction after with
    | zero => exact (Int.add_zero _).symm
    | next _ step ih =>
      rw [step.dayNumber_eq, ih]
      omega
  · induction n generalizing e with
    | zero =>
      intro same
      rw [Int.natCast_zero, Int.add_zero] at same
      rw [dayNumber_injective same]
      exact .zero
    | succ n ih =>
      intro later
      -- The day before is a date, since it is not before the date we start from.
      have lower := ((exists_dayNumber_iff _).mp ⟨d, rfl⟩).1
      have upper := ((exists_dayNumber_iff _).mp ⟨e, rfl⟩).2
      obtain ⟨before, number⟩ := (exists_dayNumber_iff (d.dayNumber + n)).mpr (by omega)
      exact .next (ih number) (nextDay_iff.mpr (by omega))

/-- Adding days goes as many days on. -/
theorem addDays?_eq_some_iff {d e : Date} {days : Nat} :
    d.addDays? days = some e ↔ d.DaysAfter days e := by
  rw [addDays?, ofDayNumber?_eq_some_iff, daysAfter_iff]

/-- Days cannot be added where fewer are left to the last date of the calendar. -/
theorem addDays?_eq_none_iff {d : Date} {days : Nat} :
    d.addDays? days = none ↔ ∃ n < days, d.DaysAfter n last := by
  have bounds := (exists_dayNumber_iff d.dayNumber).mp ⟨d, rfl⟩
  have found := exists_dayNumber_iff (d.dayNumber + days)
  simp only [← ofDayNumber?_eq_some_iff, ← Option.isSome_iff_exists] at found
  rw [addDays?, ← Option.not_isSome_iff_eq_none, found]
  simp only [daysAfter_iff]
  constructor
  · intro beyond
    exact ⟨(last.dayNumber - d.dayNumber).toNat, by omega, by omega⟩
  · rintro ⟨n, fewer, left⟩
    omega

/-- A date that is another one or some days after it. -/
def NotBefore (e d : Date) : Prop := ∃ n, DaysAfter d n e

theorem notBefore_iff {d e : Date} : e.NotBefore d ↔ d.dayNumber ≤ e.dayNumber := by
  unfold NotBefore
  simp only [daysAfter_iff]
  constructor
  · rintro ⟨n, later⟩
    omega
  · intro order
    exact ⟨(e.dayNumber - d.dayNumber).toNat, by omega⟩

end EstateFiling.Date
