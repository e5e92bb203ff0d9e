/-!
# Calendar/Date — days of the proleptic Gregorian calendar

A **date** is a day number, counted from 1 January of year 1 (day 0), between the first day of the
year `-262143` and the last day of the year `262142`.  Year, month and day of month are read off the
day number, and `Date.ofYMD?` finds the day number of three such fields, so that a date has one
representation and dates are ordered as integers.
-/

namespace Formula.Calendar

/-! ## Years and months -/

/-- A year is leap when 4 divides it, unless 100 does and 400 does not. -/
def isLeap (year : Int) : Bool :=
  year % 4 == 0 && (year % 100 != 0 || year % 400 == 0)

/-- The number of days from day 0 to 1 January of `year`; negative before year 1. -/
def daysBeforeYear (year : Int) : Int :=
  365 * (year - 1) + (year - 1) / 4 - (year - 1) / 100 + (year - 1) / 400

/-- The length of a month, months counted from 1. -/
def monthLength (leap : Bool) (month : Nat) : Nat :=
  match month with
  | 2 => if leap then 29 else 28
  | 4 | 6 | 9 | 11 => 30
  | _ => 31

/-- The number of days of a year that lie before its `month`, months counted from 1. -/
def daysBeforeMonth (leap : Bool) : Nat → Nat
  | 0 | 1 => 0
  | month + 1 => daysBeforeMonth leap month + monthLength leap month

/-- **The year of a day number.**  The mean year has 146097/400 days, which gives the year up to
one; the two comparisons settle it. -/
def yearOf (day : Int) : Int :=
  let guess := day * 400 / 146097 + 1
  if day < daysBeforeYear guess then guess - 1
  else if daysBeforeYear (guess + 1) ≤ day then guess + 1
  else guess

/-- The month, at least `month`, that holds day `ordinal` (from 0) of a year; December takes the
rest. -/
def monthFrom (leap : Bool) (ordinal : Nat) : Nat → Nat → Nat
  | 0, month => month
  | more + 1, month =>
    if ordinal < daysBeforeMonth leap (month + 1) then month
    else monthFrom leap ordinal more (month + 1)

/-- The month of day `ordinal` (from 0) of a year. -/
def monthOf (leap : Bool) (ordinal : Nat) : Nat := monthFrom leap ordinal 11 1

/-! ## Dates -/

/-- The first year of the calendar. -/
def firstYear : Int := -262143

/-- The last year of the calendar. -/
def lastYear : Int := 262142

/-- The day number of the calendar's first day. -/
def firstDay : Int := daysBeforeYear firstYear

/-- The day number of the calendar's last day. -/
def lastDay : Int := daysBeforeYear (lastYear + 1) - 1

/-- **A day of the calendar**, as its day number. -/
structure Date where
  /-- Days since 1 January of year 1. -/
  day : Int
  /-- The calendar begins at `firstDay`. -/
  first_le : firstDay ≤ day
  /-- The calendar ends at `lastDay`. -/
  le_last : day ≤ lastDay
deriving DecidableEq

namespace Date

/-- The date with a given day number, if the calendar has it. -/
def ofDay? (day : Int) : Option Date :=
  if h : firstDay ≤ day ∧ day ≤ lastDay then some ⟨day, h.1, h.2⟩ else none

/-- The date `n` days later, if the calendar has it. -/
def addDays? (d : Date) (n : Int) : Option Date := ofDay? (d.day + n)

/-- The year. -/
def year (d : Date) : Int := yearOf d.day

/-- The day of the year, from 0. -/
def ordinal (d : Date) : Nat := (d.day - daysBeforeYear d.year).toNat

/-- The month, from 1. -/
def month (d : Date) : Nat := monthOf (isLeap d.year) d.ordinal

/-- The day of the month, from 1. -/
def dayOfMonth (d : Date) : Nat := d.ordinal - daysBeforeMonth (isLeap d.year) d.month + 1

/-- The day of the week, 0 for Monday to 6 for Sunday.  Day 0 is a Monday. -/
def weekday (d : Date) : Nat := (d.day % 7).toNat

/-- **The date of a year, month and day of month**, if the three name a day of the calendar. -/
def ofYMD? (year : Int) (month day : Nat) : Option Date :=
  if firstYear ≤ year ∧ year ≤ lastYear ∧ 1 ≤ month ∧ month ≤ 12 ∧
      1 ≤ day ∧ day ≤ monthLength (isLeap year) month then
    ofDay? (daysBeforeYear year + daysBeforeMonth (isLeap year) month + (day - 1 : Nat))
  else
    none

/-- The date of the Unix epoch, on which a bare time of day is read. -/
def epoch : Date := ⟨719162, by decide, by decide⟩

end Date

end Formula.Calendar
