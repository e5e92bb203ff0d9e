import Formula.Calendar.DateTime

/-!
# Calendar/Printer — the text of a date with its time

The canonical text is `year-month-day hour:minute:second`.  A year has at least four digits and
carries a sign outside `0..9999`; a leap second is written as second 60; fractions of a second are
not shown.
-/

namespace Formula.Calendar

/-- The decimal digits of `n`, padded with zeros on the left to at least `width`. -/
def padded (width n : Nat) : String :=
  let digits := Nat.toDigits 10 n
  String.ofList (List.replicate (width - digits.length) '0' ++ digits)

/-- The text of a year. -/
def yearText (year : Int) : String :=
  if year < 0 then "-" ++ padded 4 year.natAbs
  else if year ≤ 9999 then padded 4 year.toNat
  else "+" ++ padded 4 year.toNat

/-- The text of a date. -/
def Date.text (d : Date) : String :=
  yearText d.year ++ "-" ++ padded 2 d.month ++ "-" ++ padded 2 d.dayOfMonth

/-- The text of a time of day. -/
def TimeOfDay.text (t : TimeOfDay) : String :=
  padded 2 t.hour ++ ":" ++ padded 2 t.minute ++ ":" ++
    padded 2 (t.second + if t.isLeapSecond then 1 else 0)

/-- **The canonical text of a date with its time.** -/
def DateTime.text (t : DateTime) : String := t.date.text ++ " " ++ t.time.text

end Formula.Calendar
