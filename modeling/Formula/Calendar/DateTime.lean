import Formula.Calendar.Date

/-!
# Calendar/DateTime — a date with a time of day

A **time of day** has nanoseconds and knows leap seconds: the nanoseconds may run on to two thousand
million, and the part beyond the first thousand million is a leap second.  A time that is put
together from hour, minute and second has one at the end of a minute only, where it is written as
second 60; with other nanoseconds put into it, a time may have one after any second.
-/

namespace Formula.Calendar

/-- Nanoseconds of one second. -/
def nanosPerSecond : Nat := 1000000000

/-- Seconds of one day. -/
def secondsPerDay : Nat := 86400

/-- **A time of day**: whole seconds since midnight, and nanoseconds that may run into a leap
second. -/
structure TimeOfDay where
  /-- Seconds since midnight. -/
  seconds : Nat
  /-- Nanoseconds after that second began; from `nanosPerSecond` on they count in a leap second. -/
  nanos : Nat
  /-- A day has `secondsPerDay` seconds. -/
  seconds_lt : seconds < secondsPerDay
  /-- A leap second lasts one second. -/
  nanos_lt : nanos < 2 * nanosPerSecond
deriving DecidableEq

namespace TimeOfDay

/-- The start of the day. -/
def midnight : TimeOfDay := ⟨0, 0, by decide, by decide⟩

/-- The time with given seconds and nanoseconds, if there is one. -/
def ofSeconds? (seconds nanos : Nat) : Option TimeOfDay :=
  if h : seconds < secondsPerDay ∧ nanos < 2 * nanosPerSecond then some ⟨seconds, nanos, h.1, h.2⟩
  else none

/-- A time of day is found again from its seconds and nanoseconds. -/
theorem ofSeconds?_self (t : TimeOfDay) : ofSeconds? t.seconds t.nanos = some t := by
  rw [ofSeconds?, dif_pos ⟨t.seconds_lt, t.nanos_lt⟩]

/-- The time with given hour, minute, second and nanoseconds, if there is one; a leap second must
follow the last second of its minute. -/
def ofHMS? (hour minute second nanos : Nat) : Option TimeOfDay :=
  if hour < 24 ∧ minute < 60 ∧ second < 60 ∧ (nanosPerSecond ≤ nanos → second = 59) then
    ofSeconds? (hour * 3600 + minute * 60 + second) nanos
  else
    none

/-- The hour, 0 to 23. -/
def hour (t : TimeOfDay) : Nat := t.seconds / 3600

/-- The minute, 0 to 59. -/
def minute (t : TimeOfDay) : Nat := t.seconds / 60 % 60

/-- The second, 0 to 59; a leap second counts with the second before it. -/
def second (t : TimeOfDay) : Nat := t.seconds % 60

/-- Whether the time lies in a leap second. -/
def isLeapSecond (t : TimeOfDay) : Bool := nanosPerSecond ≤ t.nanos

end TimeOfDay

/-- **A date with a time of day.** -/
structure DateTime where
  /-- The day. -/
  date : Date
  /-- The time of that day. -/
  time : TimeOfDay
deriving DecidableEq

namespace DateTime

/-- The first instant of a day. -/
def atMidnight (d : Date) : DateTime := ⟨d, .midnight⟩

/-- **The order of instants**: by day, then second, then nanosecond, so that a leap second comes
after the second it follows. -/
protected def compare (a b : DateTime) : Ordering :=
  (compare a.date.day b.date.day).then
    ((compare a.time.seconds b.time.seconds).then (compare a.time.nanos b.time.nanos))

instance : Ord DateTime := ⟨DateTime.compare⟩

end DateTime

end Formula.Calendar
