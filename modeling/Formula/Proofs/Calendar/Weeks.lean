import Formula.Proofs.Calendar.BusinessDays
import Formula.Proofs.Calendar.Fields
import Formula.Value.Basic

/-!
# Proofs/Calendar/Weeks — weekdays, weeks of the year and business days in step

Three readings of a date count days in sevens: the weekday from Sunday, the week of the year, and
the policies, which know the days of the week from Monday.  All of them are taken from the day
number, in which the days of a year follow 1 January without a gap (`Date.day_eq`), so that from one
day to the next each changes as the others say: the weekday goes round, and the week of the year
goes up on a Sunday (`Date.weekOfYear_next`).

The weeks of a year are counted from the Sunday on or before 1 January.  That is at most six days
back, and at most 365 days follow 1 January, so that there are 54 weeks at most; 1 January of a leap
year that begins on a Saturday is the only day of its first week, and 31 December of the last.
-/

namespace Formula.Calendar

/-! ## The day after -/

namespace Date

variable {d e : Date}

theorem weekdayFromSunday_bounds (d : Date) :
    1 ≤ d.weekdayFromSunday ∧ d.weekdayFromSunday ≤ 7 := by
  rw [weekdayFromSunday]
  omega

/-- **The weekday goes round** from Sunday to Saturday. -/
theorem weekdayFromSunday_next (hnext : d.addDays? 1 = some e) :
    e.weekdayFromSunday = if d.weekdayFromSunday = 7 then 1 else d.weekdayFromSunday + 1 := by
  have hday : e.day = d.day + 1 := addDays?_eq_some_iff.mp hnext
  split <;> next hlast =>
    simp only [weekdayFromSunday, weekday] at hlast ⊢
    omega

/-- A day is the day of the year before it plus one, as long as the year lasts. -/
theorem ordinal_next (hnext : d.addDays? 1 = some e) (hyear : e.year = d.year) :
    e.ordinal = d.ordinal + 1 := by
  have hday : e.day = d.day + 1 := addDays?_eq_some_iff.mp hnext
  have hd := d.day_eq
  have he := e.day_eq
  rw [hyear] at he
  omega

/-- A day is a Sunday if whole weeks lie between it and the Sunday on or before 1 January. -/
theorem weekdayFromSunday_eq_one_iff (d : Date) :
    d.weekdayFromSunday = 1 ↔
      (d.ordinal + ((daysBeforeYear d.year + 1) % 7).toNat) % 7 = 0 := by
  have hd := d.day_eq
  rw [weekdayFromSunday, weekday]
  omega

/-! ## The week of the year -/

/-- **1 January lies in week 1.** -/
theorem weekOfYear_newYear (hmonth : d.month = 1) (hday : d.dayOfMonth = 1) : d.weekOfYear = 1 := by
  have hordinal : d.ordinal = 0 := by
    have hbefore : daysBeforeMonth (isLeap d.year) d.month = 0 := by rw [hmonth]; rfl
    rw [dayOfMonth, hbefore] at hday
    omega
  rw [weekOfYear, hordinal]
  omega

/-- **The week of the year goes up on a Sunday** and stays on the other days. -/
theorem weekOfYear_next (hnext : d.addDays? 1 = some e) (hyear : e.year = d.year) :
    e.weekOfYear = if e.weekdayFromSunday = 1 then d.weekOfYear + 1 else d.weekOfYear := by
  have hordinal := ordinal_next hnext hyear
  split <;> next hsunday =>
    rw [weekdayFromSunday_eq_one_iff, hyear, hordinal] at hsunday
    rw [weekOfYear, weekOfYear, hyear, hordinal]
    omega

theorem weekOfYear_bounds (d : Date) : 1 ≤ d.weekOfYear ∧ d.weekOfYear ≤ 54 := by
  have hordinal : d.ordinal < 366 := by
    refine d.ordinal_lt.trans_le ?_
    rw [yearLength]
    split <;> decide
  rw [weekOfYear]
  omega

end Date

/-! ## Business days -/

namespace Policy

/-- The first business day of the week, 1 for Sunday to 7 for Saturday. -/
def firstWorkday : Policy → Nat
  | mondayToFriday | mondayToSaturday => 2
  | sundayToThursday | sundayToFriday => 1

/-- The last business day of the week. -/
def lastWorkday : Policy → Nat
  | sundayToThursday => 5
  | mondayToFriday | sundayToFriday => 6
  | mondayToSaturday => 7

/-- **The business days of a policy are one stretch of the week**, counted from Sunday. -/
theorem isBusinessDay_iff (p : Policy) (d : Date) :
    p.isBusinessDay d = true ↔
      p.firstWorkday ≤ d.weekdayFromSunday ∧ d.weekdayFromSunday ≤ p.lastWorkday := by
  have hweek : d.weekday < 7 := by
    rw [Date.weekday]
    omega
  rw [isBusinessDay, p.worksOn_iff hweek, Date.weekdayFromSunday]
  cases p <;> simp only [workdays, firstWorkday, lastWorkday, List.mem_cons, List.not_mem_nil,
    or_false] <;> omega

end Policy

/-! ## Fields -/

/-- **Weekdays, weeks and business days go in step** over the whole calendar.  What a value shows of
its date are the components of that date.  From one day to the next the weekday goes round from 1 to
7, and within a year the week goes up by one where a Sunday begins; 1 January lies in week 1, and no
week is beyond the 54th.  The business days of a policy are the stretch of weekdays that names it.
-/
theorem DateTime.weeks_in_step (t : DateTime) :
    (∀ v : Value, v.toDate? = some t →
      (∀ c, v.component c = Float.ofInt (t.component c)) ∧
      ∀ p, v.isBusinessDay p = p.isBusinessDay t.date) ∧
    (1 ≤ t.component .weekday ∧ t.component .weekday ≤ 7) ∧
    (1 ≤ t.component .weekOfYear ∧ t.component .weekOfYear ≤ 54) ∧
    (t.component .month = 1 → t.component .day = 1 → t.component .weekOfYear = 1) ∧
    (∀ u : DateTime, t.date.addDays? 1 = some u.date →
      (u.component .weekday
        = if t.component .weekday = 7 then 1 else t.component .weekday + 1) ∧
      (u.component .year = t.component .year →
        u.component .weekOfYear
          = if u.component .weekday = 1 then t.component .weekOfYear + 1
            else t.component .weekOfYear)) ∧
    ∀ p : Policy, p.isBusinessDay t.date = true ↔
      (p.firstWorkday ≤ t.component .weekday ∧ t.component .weekday ≤ p.lastWorkday) := by
  have hweekday := t.date.weekdayFromSunday_bounds
  have hweek := t.date.weekOfYear_bounds
  refine ⟨fun v hv => ?_, ?_, ?_, fun hmonth hday => ?_, fun u hnext => ⟨?_, fun hyear => ?_⟩,
    fun p => ?_⟩
  · refine ⟨fun c => ?_, fun p => ?_⟩
    · rw [Value.component, hv]
    · rw [Value.isBusinessDay, hv]
  all_goals simp only [component] at *
  · omega
  · omega
  · exact_mod_cast Date.weekOfYear_newYear (by exact_mod_cast hmonth) (by exact_mod_cast hday)
  · exact_mod_cast Date.weekdayFromSunday_next hnext
  · exact_mod_cast Date.weekOfYear_next hnext hyear
  · exact_mod_cast p.isBusinessDay_iff t.date

/-- The first two days of a leap year that begins on a Saturday: the first is a text, lies alone in
week 1 and is a business day where Saturday is one; on the second a week begins. -/
theorem DateTime.weeks_in_step_new_year :
    let s : DateTime := .atMidnight ⟨730119, by decide, by decide⟩
    let t : DateTime := .atMidnight ⟨730120, by decide, by decide⟩
    let v : Value := .text "2000-01-01"
    (v.toDate? = some s ∧ s.date.addDays? 1 = some t.date ∧ t.component .year = s.component .year ∧
        s.component .month = 1 ∧ s.component .day = 1) ∧
      v.component .weekday = Float.ofInt 7 ∧ v.component .weekOfYear = Float.ofInt 1 ∧
      v.isBusinessDay .mondayToSaturday = true ∧
      t.component .weekday = 1 ∧ t.component .weekOfYear = 2 := by
  intro s t v
  have hv : v.toDate? = some s := by decide +kernel
  have hnext : s.date.addDays? 1 = some t.date := by decide +kernel
  have hyear : t.component .year = s.component .year := by decide +kernel
  have hmonth : s.component .month = 1 := by decide +kernel
  have hday : s.component .day = 1 := by decide +kernel
  have hsaturday : s.component .weekday = 7 := by decide +kernel
  obtain ⟨hvalue, -, -, hfirst, hstep, hwork⟩ := s.weeks_in_step
  obtain ⟨hcomponent, hbusiness⟩ := hvalue v hv
  obtain ⟨hweekday, hweek⟩ := hstep t hnext
  have hone : s.component .weekOfYear = 1 := hfirst hmonth hday
  have hsunday : t.component .weekday = 1 := by rw [hweekday, if_pos hsaturday]
  refine ⟨⟨hv, hnext, hyear, hmonth, hday⟩, ?_, ?_, ?_, hsunday, ?_⟩
  · rw [hcomponent, hsaturday]
  · rw [hcomponent, hone]
  · rw [hbusiness, hwork, hsaturday]
    decide
  · rw [hweek hyear, if_pos hsunday, hone]
    rfl

end Formula.Calendar
