import Formula.Calendar.Business

/-!
# Calendar/Amount — amounts of time

An **amount** is a whole number of units, or of business days.  Months and years move through the
calendar, the shorter units along the time line.
-/

namespace Formula.Calendar

/-- **A unit of time.** -/
inductive TimeUnit where
  | year
  | month
  | week
  | day
  | hour
  | minute
  | second
  | millisecond
deriving DecidableEq

/-- How an amount is counted. -/
inductive Counting where
  /-- In units of time. -/
  | plain
  /-- In business days, whatever the unit says. -/
  | businessDays
deriving DecidableEq

/-- **An amount of time**, such as `3 weeks` or `5 business days`. -/
structure Amount where
  unit : TimeUnit
  magnitude : Int64
  counting : Counting
deriving DecidableEq

/-- Every unit of time. -/
def TimeUnit.all : List TimeUnit :=
  [year, month, week, day, hour, minute, second, millisecond]

/-- The name of a unit. -/
def TimeUnit.name : TimeUnit → String
  | year => "year"
  | month => "month"
  | week => "week"
  | day => "day"
  | hour => "hour"
  | minute => "minute"
  | second => "second"
  | millisecond => "millisecond"

/-- Every way of counting. -/
def Counting.all : List Counting := [plain, businessDays]

/-- The name of a way of counting. -/
def Counting.name : Counting → String
  | plain => "none"
  | businessDays => "business_days"

/-- The length of a unit in months, for the units that months measure. -/
def TimeUnit.months? : TimeUnit → Option Int64
  | year => some 12
  | month => some 1
  | _ => none

/-- The length of a unit in seconds, for the units that whole seconds measure. -/
def TimeUnit.seconds? : TimeUnit → Option Int64
  | week => some 604800
  | day => some 86400
  | hour => some 3600
  | minute => some 60
  | second => some 1
  | _ => none

/-! ## Whole steps

Steps are counted in 64 bits, and so are the months or seconds that they make; of months the
magnitude must fit into 32 bits.  A span of time may be as long as 64 bits can say in
milliseconds. -/

/-- The product of two integers of 64 bits, if 64 bits hold it. -/
def product? (a b : Int64) : Option Int64 :=
  let n := a.toInt * b.toInt
  if Int64.minValue.toInt ≤ n ∧ n ≤ Int64.maxValue.toInt then some (.ofInt n) else none

/-- **Add a number of months.** -/
def DateTime.addMonthSteps? (t : DateTime) (months : Int64) : Option DateTime :=
  let magnitude := months.toInt.natAbs
  if magnitude < UInt32.size then t.moveMonths? (months < 0) (.ofNat magnitude) else none

/-- Nanoseconds of one millisecond. -/
def nanosPerMilli : Nat := 1000000

/-- The nanoseconds of the longest span of time. -/
def longestSpan : Nat := 9223372036854775807 * nanosPerMilli

/-- A span of nanoseconds, if it is not too long. -/
def span? (nanos : Int) : Option Int := if nanos.natAbs ≤ longestSpan then some nanos else none

/-- **The span of time that a whole number of units makes.** -/
def TimeUnit.span? : TimeUnit → Int64 → Option Int
  | millisecond, steps => Calendar.span? (steps.toInt * nanosPerMilli)
  | u, steps => do
    let length ← u.seconds?
    let seconds ← product? steps length
    Calendar.span? (seconds.toInt * Calendar.second)

/-- **Move by a whole number of units.** -/
def DateTime.addUnits? (t : DateTime) (u : TimeUnit) (steps : Int64) : Option DateTime :=
  match u.months? with
  | some months => (product? steps months).bind t.addMonthSteps?
  | none => (u.span? steps).bind t.addNanos?

end Formula.Calendar
