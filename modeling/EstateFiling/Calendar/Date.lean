import EstateFiling.Text.Ascii

/-!
# Dates

A date is a day of the proleptic Gregorian calendar, with a year from `-262143`
to `262142`.  Days are numbered from the first of January of the year one, which
is day 0; `Date.dayNumber` and `Date.ofDayNumber?` go to and fro.  A date is
written with the year first, in four digits, and with a sign when four digits do
not suffice.
-/

namespace EstateFiling

/-- Whether a year has a leap day. -/
def isLeapYear (year : Int) : Bool :=
  year % 4 == 0 && (year % 100 != 0 || year % 400 == 0)

/-- The lengths of the months of a year. -/
def monthLengths (leap : Bool) : List Nat :=
  [31, if leap then 29 else 28, 31, 30, 31, 30, 31, 31, 30, 31, 30, 31]

/-- The length of a month, zero when there is no such month. -/
def daysInMonth (year : Int) (month : Nat) : Nat :=
  ((0 :: monthLengths (isLeapYear year))[month]?).getD 0

/-- The days of a year before a month. -/
def daysBeforeMonth (year : Int) (month : Nat) : Nat :=
  ((monthLengths (isLeapYear year)).take (month - 1)).foldl (· + ·) 0

/-- A calendar date. -/
@[ext]
structure Date where
  /-- The year; the year before the year one is the year zero. -/
  year : Int
  /-- The month, from 1. -/
  month : Nat
  /-- The day of the month, from 1. -/
  day : Nat
  /-- The year is in range. -/
  yearInRange : -262143 ≤ year ∧ year ≤ 262142
  /-- The month has that day. -/
  dayInMonth : 1 ≤ day ∧ day ≤ daysInMonth year month
deriving DecidableEq

namespace Date

/-- The date of a year, month and day, if there is one. -/
def ofCivil? (year : Int) (month day : Nat) : Option Date :=
  if hy : -262143 ≤ year ∧ year ≤ 262142 then
    if hd : 1 ≤ day ∧ day ≤ daysInMonth year month then some ⟨year, month, day, hy, hd⟩
    else none
  else none

/-! ## Day numbers -/

/-- The days before a year, counted from the year one. -/
def daysBeforeYear (year : Int) : Int :=
  365 * (year - 1) + (year - 1) / 4 - (year - 1) / 100 + (year - 1) / 400

/-- The number of a date's day. -/
def dayNumber (d : Date) : Int :=
  daysBeforeYear d.year + daysBeforeMonth d.year d.month + (d.day - 1 : Nat)

/-- The year of a day number and the days of that year before it. -/
def yearOfDay (n : Int) : Int × Nat :=
  let inCycle := n % 146097
  let century := min (inCycle / 36524) 3
  let inCentury := inCycle - 36524 * century
  let leapCycle := inCentury / 1461
  let inLeapCycle := inCentury % 1461
  let yearOfFour := min (inLeapCycle / 365) 3
  (400 * (n / 146097) + 100 * century + 4 * leapCycle + yearOfFour + 1,
    (inLeapCycle - 365 * yearOfFour).toNat)

/-- The month and the day of the month of the day with the given number of days
of the months before it. -/
def monthOfDay : List Nat → Nat → Nat → Nat × Nat
  | [], month, before => (month, before + 1)
  | length :: lengths, month, before =>
      if before < length then (month, before + 1)
      else monthOfDay lengths (month + 1) (before - length)

/-- The date with a day number, if it is in range. -/
def ofDayNumber? (n : Int) : Option Date :=
  let (year, before) := yearOfDay n
  let (month, day) := monthOfDay (monthLengths (isLeapYear year)) 1 before
  ofCivil? year month day

/-- The date a number of days later, if it is in range. -/
def addDays? (d : Date) (days : Int) : Option Date := ofDayNumber? (d.dayNumber + days)

/-- The later of two dates. -/
def later (a b : Date) : Date := if a.dayNumber < b.dayNumber then b else a

/-! ## Text -/

/-- A year in at least four digits, with a sign outside the years 0 to 9999. -/
def yearText (year : Int) : List Char :=
  let digits := Text.paddedNat 4 year.natAbs
  if year < 0 then '-' :: digits
  else if 9999 < year then '+' :: digits
  else digits

/-- A date as year, month and day. -/
def text (d : Date) : String :=
  String.ofList
    (yearText d.year ++ '-' :: Text.paddedNat 2 d.month ++ '-' :: Text.paddedNat 2 d.day)

/-- The name of a month. -/
def monthName (month : Nat) : String :=
  ["January", "February", "March", "April", "May", "June", "July", "August", "September",
    "October", "November", "December"].getD (month - 1) ""

/-- A date with the month's name first. -/
def longText (d : Date) : String :=
  monthName d.month ++ " " ++ String.ofList (Nat.toDigits 10 d.day) ++ ", "
    ++ String.ofList (yearText d.year)

end Date

end EstateFiling
