/-!
# The calendar

Days of the Gregorian calendar, extended back to year 1. Days are counted from 1 January of year 1,
which is day 0 and a Monday.
-/

namespace CriteriaSearch.Calendar

def maxYear : Nat := 9999

def isLeap (y : Nat) : Bool := y % 4 == 0 && (y % 100 != 0 || y % 400 == 0)

def daysInMonth (y m : Nat) : Nat :=
  if m = 2 then (if isLeap y then 29 else 28)
  else if m = 4 ∨ m = 6 ∨ m = 9 ∨ m = 11 then 30 else 31

/-- Days before 1 January of a year. -/
def daysBeforeYear (y : Nat) : Nat :=
  let n := y - 1
  365 * n + n / 4 - n / 100 + n / 400

/-- Days of a year before the first of a month. -/
def daysBeforeMonth (y : Nat) : Nat → Nat
  | 0 => 0
  | m + 1 => if m = 0 then 0 else daysBeforeMonth y m + daysInMonth y m

/-- Days of the years 1 to 9999. -/
def dayCount : Nat := daysBeforeYear (maxYear + 1)

/-- A year, a month and a day of the month. -/
structure Date where
  year : Nat
  month : Nat
  day : Nat
deriving DecidableEq, Repr

namespace Date

def isValid (d : Date) : Bool :=
  1 ≤ d.year && d.year ≤ maxYear && 1 ≤ d.month && d.month ≤ 12
    && 1 ≤ d.day && d.day ≤ daysInMonth d.year d.month

def toDays (d : Date) : Nat := daysBeforeYear d.year + daysBeforeMonth d.year d.month + (d.day - 1)

/-- The month and day of a day of the year, from month `m` on. -/
def monthDay (y m n : Nat) : Nat → Nat × Nat
  | 0 => (m, n + 1)
  | fuel + 1 =>
    if n < daysInMonth y m then (m, n + 1) else monthDay y (m + 1) (n - daysInMonth y m) fuel

/-- The year that holds a day. Of the two candidates that the mean length of a year leaves, the
later one is right unless it begins after the day. -/
def yearOf (n : Nat) : Nat :=
  let y := n * 400 / 146097 + 1
  if n < daysBeforeYear y then y - 1
  else if daysBeforeYear (y + 1) ≤ n then y + 1 else y

def ofDays (n : Nat) : Date :=
  let y := yearOf n
  let (m, d) := monthDay y 1 (n - daysBeforeYear y) 12
  ⟨y, m, d⟩

end Date

/-- The weekday of a day, Monday being 0. -/
def weekday (n : Nat) : Nat := n % 7

/-- Whether a year has a week 53: it begins on a Thursday, or on a Wednesday and is leap. -/
def isLongYear (y : Nat) : Bool :=
  let first := weekday (daysBeforeYear y)
  first == 3 || (first == 2 && isLeap y)

/-- The days of a week of a year and a day of that week, counted from the Monday of week 1, which
holds the first Thursday. Week and day count from 1. -/
def ofWeek? (y week day : Nat) : Option Nat :=
  if 1 ≤ y ∧ y ≤ maxYear ∧ 1 ≤ week ∧ (week ≤ 52 ∨ week = 53 ∧ isLongYear y)
      ∧ 1 ≤ day ∧ day ≤ 7 then
    let first := daysBeforeYear y
    let monday : Int := (first : Int) - weekday first + (if 3 < weekday first then 7 else 0)
    let n := monday + (7 * (week - 1) + (day - 1) : Nat)
    if 0 ≤ n ∧ n < dayCount then some n.toNat else none
  else none

end CriteriaSearch.Calendar
