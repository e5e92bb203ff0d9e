import Formula.Builtin.Plan

/-!
# Builtin/Dates — functions of dates and of the clock
-/

namespace Formula.Builtin

open Calendar (Component DateTime)

/-- A function that reads a component off a date. -/
def componentFunction (name help : String) (c : Component) : Function :=
  ⟨name, 1, 1, help, fun _ => do return .number ((← Plan.argument 0).component c)⟩

/-- **The functions of dates and of the clock.** -/
def dateFunctions : List Function :=
  [componentFunction "year" "year(date): the year of 'date'" .year,
   componentFunction "month" "month(date): the month of 'date' (1-12)" .month,
   componentFunction "day" "day(date): the day of month of 'date'" .day,
   componentFunction "hour" "hour(date): the hour of 'date' (0-23)" .hour,
   componentFunction "minute" "minute(date): the minute of 'date'" .minute,
   componentFunction "second" "second(date): the second of 'date'" .second,
   componentFunction "weekday" "weekday(date): day of week, 1 = Sunday .. 7 = Saturday" .weekday,
   componentFunction "weeknum" "weeknum(date): week of the year, weeks start on Sunday" .weekOfYear,
   ⟨"now", 0, 0, "now(): the current date and time",
    fun _ => .now fun t => return .date t⟩,
   ⟨"today", 0, 0, "today(): the current date at midnight",
    fun _ => .now fun t => return .date (.atMidnight t.date)⟩,
   ⟨"isbusinessday", 1, 1,
    "isbusinessday(date): true if 'date' is a business day under the configured policy",
    fun _ => do
      let v ← Plan.argument 0
      .policy fun p => return .bool (v.isBusinessDay p)⟩]

end Formula.Builtin
