import Formula.Calendar.DateTime

/-!
# Calendar/Shift — moving along the calendar

Two ways to move: by **months**, which keeps the time of day and clamps the day to the length of the
month reached, and by an exact **span** of nanoseconds on the time line.  Either gives no result
when it would leave the calendar.  A number of months is kept in 32 bits, apart from its direction.
-/

namespace Formula.Calendar

/-- **Add months**, keeping the day of the month where the month reached has it and else taking that
month's last day. -/
def Date.addMonths? (d : Date) (months : Int) : Option Date :=
  let index := 12 * d.year + (d.month - 1 : Nat) + months
  let year := index / 12
  let month := (index % 12).toNat + 1
  Date.ofYMD? year month (min d.dayOfMonth (monthLength (isLeap year) month))

/-- Add months to the date; the time of day, leap second included, stays. -/
def DateTime.addMonths? (t : DateTime) (months : Int) : Option DateTime :=
  (t.date.addMonths? months).map fun d => ⟨d, t.time⟩

/-- The largest number of months of one move. -/
def maxMonths : Nat := 2147483647

/-- **Move by a number of months**, forward or backward. -/
def DateTime.moveMonths? (t : DateTime) (backward : Bool) (months : UInt32) : Option DateTime :=
  if maxMonths < months.toNat then none
  else t.addMonths? (if backward then -months.toNat else months.toNat)

/-- Nanoseconds of one second, as an integer. -/
def second : Int := nanosPerSecond

/-- Nanoseconds of one day. -/
def dayLength : Int := 86400 * second

/-- The date and time that lie `nanos` nanoseconds after the midnight that begins day `day`, if the
calendar has that day. -/
def DateTime.ofNanos? (day nanos : Int) : Option DateTime :=
  match Date.ofDay? (day + nanos / dayLength) with
  | none => none
  | some d =>
    (TimeOfDay.ofSeconds? (nanos % dayLength / second).toNat (nanos % second).toNat).map fun t =>
      ⟨d, t⟩

/-- **Add a span of nanoseconds.**  A move that starts in a leap second and leaves it goes on from
the ordinary second before it (forward) or after it (backward), at the same fraction; one that stays
within the leap second and the second before it only changes the nanoseconds. -/
def DateTime.addNanos? (t : DateTime) (span : Int) : Option DateTime :=
  let wholeSeconds := span.tdiv second
  let fraction := span.tmod second
  let start : Int := t.time.seconds * second
  let nanos : Int := t.time.nanos
  if t.time.isLeapSecond then
    if 0 < wholeSeconds ∨ (0 < fraction ∧ 2 * second ≤ nanos + fraction) then
      DateTime.ofNanos? t.date.day (start + (nanos - second) + span)
    else if wholeSeconds < 0 then
      DateTime.ofNanos? t.date.day (start + second + (nanos - second) + span)
    else
      (TimeOfDay.ofSeconds? t.time.seconds (nanos + fraction).toNat).map fun time => ⟨t.date, time⟩
  else
    DateTime.ofNanos? t.date.day (start + nanos + span)

/-- Add whole days on the time line. -/
def DateTime.addDays? (t : DateTime) (days : Int) : Option DateTime :=
  t.addNanos? (days * dayLength)

end Formula.Calendar
