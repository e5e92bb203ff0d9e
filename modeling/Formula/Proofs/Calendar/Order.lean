import Formula.Proofs.Calendar.Grammar
import Mathlib

/-!
# Proofs/Calendar/Order — instants are ordered as the calendar has them

An instant is compared by day number, second and nanosecond.  `DateTime.compare_eq_calendar` says
that this is the order of the calendar: year, month, day, hour, minute, second and nanoseconds, the
first that differs deciding.  A leap second at the end of a minute is second 60, so it comes after
the 59 it follows and before the minute that begins when it is over.

Two orders agree once the one respects the other (`compare_eq_of_lt`), so it is enough that what has
earlier fields is earlier.
-/

namespace Formula

/-- **An order is read off a key** when a smaller key is a smaller value and equal keys are equal
values. -/
theorem compare_eq_of_lt {α β : Type} [Ord α] [Ord β] [Std.OrientedOrd α] [Std.OrientedOrd β]
    [Std.LawfulEqOrd β] {key : α → β} (hinj : ∀ {a b}, key a = key b → a = b)
    (hlt : ∀ {a b}, compare (key a) (key b) = .lt → compare a b = .lt) (a b : α) :
    compare a b = compare (key a) (key b) := by
  cases h : compare (key a) (key b) with
  | lt => exact hlt h
  | eq =>
    rw [hinj (Std.LawfulEqOrd.eq_of_compare h)]
    exact Std.ReflOrd.compare_self
  | gt => exact Std.OrientedCmp.gt_of_lt (hlt (Std.OrientedCmp.lt_of_gt h))

namespace Calendar

/-! ## Days -/

/-- **What is shown as an earlier day is an earlier day.** -/
theorem Date.day_lt_day {d e : Date} (h : d.year < e.year ∨ d.year = e.year ∧
    (d.month < e.month ∨ d.month = e.month ∧ d.dayOfMonth < e.dayOfMonth)) : d.day < e.day := by
  have hd := d.day_eq
  have he := e.day_eq
  rcases h with hyear | ⟨hyear, h⟩
  · -- The earlier year is over when the later one begins.
    have hend := d.ordinal_lt
    have hsucc := daysBeforeYear_succ d.year
    have hmono := daysBeforeYear_mono (Int.add_one_le_of_lt hyear)
    omega
  obtain ⟨-, hbegin, hend⟩ := monthOf_spec d.ordinal_lt
  obtain ⟨-, hbegin', -⟩ := monthOf_spec e.ordinal_lt
  rw [hyear] at hd
  rcases h with hmonth | ⟨hmonth, hday⟩
  · -- So is the earlier month.
    have hmono := daysBeforeMonth_add_le (isLeap d.year) d.month_bounds.1 hmonth
    rw [month, month, ← hyear] at hmono
    rw [← hyear] at hbegin'
    omega
  · rw [dayOfMonth, dayOfMonth, hmonth, hyear] at hday
    rw [← month, hmonth, hyear] at hbegin
    omega

/-! ## Times of day -/

namespace TimeOfDay

/-- **A time with earlier fields is an earlier time**; of two times that differ only by the leap
second, the one before it comes first. -/
theorem before_of_fields {t u : TimeOfDay} (h : t.fields.hour < u.fields.hour ∨
    t.fields.hour = u.fields.hour ∧ (t.fields.minute < u.fields.minute ∨
      t.fields.minute = u.fields.minute ∧ (t.fields.second < u.fields.second ∨
        t.fields.second = u.fields.second ∧ t.fields.nanos < u.fields.nanos))) :
    t.seconds < u.seconds ∨ t.seconds = u.seconds ∧ t.nanos < u.nanos := by
  rw [t.seconds_eq, u.seconds_eq]
  have hminute := t.minute_lt
  have ht := t.second_lt
  have hu := u.second_lt
  rcases t.fields_cases with ⟨hlast, hfields⟩ | ⟨hlast, n, -, hnanos, hfields⟩ <;>
    rcases u.fields_cases with ⟨hlast', hfields'⟩ | ⟨hlast', n', -, hnanos', hfields'⟩ <;>
    · simp only [hfields, hfields'] at h
      omega

end TimeOfDay

/-! ## Instants -/

namespace DateTime

/-- **What the calendar has of an instant**: year, month, day, hour, minute, second and nanoseconds.
-/
def calendar (t : DateTime) : List Int :=
  [t.date.year, t.date.month, t.date.dayOfMonth,
    t.time.fields.hour, t.time.fields.minute, t.time.fields.second, t.time.fields.nanos]

theorem calendar_injective {t u : DateTime} (h : t.calendar = u.calendar) : t = u := by
  simp only [calendar, List.cons.injEq, Int.natCast_inj, and_true] at h
  obtain ⟨hyear, hmonth, hday, hhour, hminute, hsecond, hnanos⟩ := h
  have hdate : t.date = u.date := Date.fields_injective (by
    rw [Date.fields, Date.fields, hyear, hmonth, hday])
  have htime : t.time = u.time :=
    TimeOfDay.fields_injective (TimeOfDay.Fields.ext hhour hminute hsecond hnanos)
  calc t = ⟨t.date, t.time⟩ := rfl
    _ = u := by rw [hdate, htime]

theorem compare_eq_lt_iff {t u : DateTime} :
    compare t u = .lt ↔ t.date.day < u.date.day ∨ t.date.day = u.date.day ∧
      (t.time.seconds < u.time.seconds ∨ t.time.seconds = u.time.seconds ∧
        t.time.nanos < u.time.nanos) := by
  change DateTime.compare t u = .lt ↔ _
  simp only [DateTime.compare, Ordering.then_eq_lt, Int.compare_eq_lt, Int.compare_eq_eq,
    Nat.compare_eq_lt, Nat.compare_eq_eq]

instance : Std.OrientedOrd DateTime where
  eq_swap := by
    intro t u
    change DateTime.compare t u = (DateTime.compare u t).swap
    rw [DateTime.compare, DateTime.compare, Ordering.swap_then, Ordering.swap_then,
      ← Std.OrientedOrd.eq_swap, ← Std.OrientedOrd.eq_swap, ← Std.OrientedOrd.eq_swap]

/-- **Instants are ordered as the calendar has them.** -/
theorem compare_eq_calendar (t u : DateTime) : compare t u = compare t.calendar u.calendar := by
  refine compare_eq_of_lt calendar_injective (fun h => ?_) t u
  simp only [calendar, List.compare_cons_cons, List.compare_nil_nil, Ordering.then_eq_lt,
    Int.compare_eq_lt, Int.compare_eq_eq, Int.ofNat_lt, Int.natCast_inj, reduceCtorEq, and_false,
    or_false] at h
  rw [compare_eq_lt_iff]
  rcases h with hyear | ⟨hyear, hmonth | ⟨hmonth, hday | ⟨hday, htime⟩⟩⟩
  · exact Or.inl (Date.day_lt_day (Or.inl hyear))
  · exact Or.inl (Date.day_lt_day (Or.inr ⟨hyear, Or.inl hmonth⟩))
  · exact Or.inl (Date.day_lt_day (Or.inr ⟨hyear, Or.inr ⟨hmonth, hday⟩⟩))
  · refine Or.inr ⟨congrArg Date.day (Date.fields_injective ?_), TimeOfDay.before_of_fields htime⟩
    rw [Date.fields, Date.fields, hyear, hmonth, hday]

end DateTime

end Calendar

end Formula
