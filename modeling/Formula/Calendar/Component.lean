import Formula.Calendar.DateTime

/-!
# Calendar/Component — the numbers read off a date

Year, month, day, hour, minute and second, the **weekday** (1 for Sunday to 7 for Saturday) and the
**week of the year**: weeks begin on Sunday, and the one that holds 1 January is week 1.
-/

namespace Formula.Calendar

/-- A number that can be read off a date with its time. -/
inductive Component where
  | year
  | month
  | day
  | hour
  | minute
  | second
  | weekday
  | weekOfYear
deriving DecidableEq

/-- The day of the week, 1 for Sunday to 7 for Saturday. -/
def Date.weekdayFromSunday (d : Date) : Nat := (d.weekday + 1) % 7 + 1

/-- **The week of the year.**  The days of the year before this one, and those of week 1 that lie in
the year before, fill whole weeks of seven days. -/
def Date.weekOfYear (d : Date) : Nat :=
  let newYear := ((daysBeforeYear d.year + 1) % 7).toNat
  (d.ordinal + newYear) / 7 + 1

/-- The value of a component. -/
def DateTime.component (t : DateTime) : Component → Int
  | .year => t.date.year
  | .month => t.date.month
  | .day => t.date.dayOfMonth
  | .hour => t.time.hour
  | .minute => t.time.minute
  | .second => t.time.second
  | .weekday => t.date.weekdayFromSunday
  | .weekOfYear => t.date.weekOfYear

end Formula.Calendar
