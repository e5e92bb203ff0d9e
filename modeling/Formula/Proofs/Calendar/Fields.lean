import Formula.Calendar.DateTime
import Mathlib.Tactic.Common

/-!
# Proofs/Calendar/Fields — the fields of a date and of a time name it again

Year, month and day of month are read off a day number by division and search.  `Date.ofYMD?_fields`
says that they lead back to it: the year is the one whose days the day number lies among
(`daysBeforeYear_yearOf`), the month the one whose days the rest lies among, and what is left is the
day of the month.  `TimeOfDay.ofHMS?_fields` says the same of hour, minute and second.

No other fields name that date or that time (`Date.ofYMD?_eq_some_iff`,
`TimeOfDay.ofHMS?_eq_some_iff`): years and months follow each other without overlap, so a day lies
in one of each.
-/

namespace Formula.Calendar

/-! ## Years -/

/-- **The year of a day number** begins on that day or before, and the next year begins after it. -/
theorem daysBeforeYear_yearOf (day : Int) :
    daysBeforeYear (yearOf day) ≤ day ∧ day < daysBeforeYear (yearOf day + 1) := by
  simp only [yearOf]
  split_ifs with hbefore hafter
  · simp only [daysBeforeYear] at hbefore ⊢
    omega
  · simp only [daysBeforeYear] at hbefore hafter ⊢
    omega
  · exact ⟨Int.not_lt.mp hbefore, Int.not_le.mp hafter⟩

/-- The length of a year. -/
def yearLength (leap : Bool) : Nat := if leap then 366 else 365

/-- A year begins when the one before it has passed. -/
theorem daysBeforeYear_succ (year : Int) :
    daysBeforeYear (year + 1) = daysBeforeYear year + yearLength (isLeap year) := by
  have hleap : isLeap year = true ↔ year % 4 = 0 ∧ (year % 100 ≠ 0 ∨ year % 400 = 0) := by
    simp [isLeap]
  rw [yearLength]
  split
  · next h =>
    have hyear := hleap.mp h
    simp only [daysBeforeYear]
    omega
  · next h =>
    have hyear := mt hleap.mpr h
    simp only [daysBeforeYear]
    omega

/-- A later year does not begin earlier. -/
theorem daysBeforeYear_mono {y z : Int} (h : y ≤ z) : daysBeforeYear y ≤ daysBeforeYear z := by
  simp only [daysBeforeYear]
  omega

/-- **A day lies in one year only.** -/
theorem yearOf_eq {day year : Int} (hle : daysBeforeYear year ≤ day)
    (hlt : day < daysBeforeYear (year + 1)) : yearOf day = year := by
  obtain ⟨hle', hlt'⟩ := daysBeforeYear_yearOf day
  rcases Int.lt_trichotomy (yearOf day) year with hbefore | heq | hafter
  · have hmono := daysBeforeYear_mono (Int.add_one_le_of_lt hbefore)
    omega
  · exact heq
  · have hmono := daysBeforeYear_mono (Int.add_one_le_of_lt hafter)
    omega

/-! ## Months -/

theorem daysBeforeMonth_succ (leap : Bool) {month : Nat} (hmonth : 1 ≤ month) :
    daysBeforeMonth leap (month + 1) = daysBeforeMonth leap month + monthLength leap month := by
  obtain _ | month := month
  · exact absurd hmonth (by decide)
  · rfl

/-- The months fill the year. -/
theorem daysBeforeMonth_thirteen (leap : Bool) : daysBeforeMonth leap 13 = yearLength leap := by
  cases leap <;> rfl

/-- A later month does not begin earlier. -/
theorem daysBeforeMonth_mono (leap : Bool) {m n : Nat} (hm : 1 ≤ m) (h : m ≤ n) :
    daysBeforeMonth leap m ≤ daysBeforeMonth leap n := by
  induction h with
  | refl => exact Nat.le_refl _
  | step hmn ih =>
    rw [daysBeforeMonth_succ leap (Nat.le_trans hm hmn)]
    omega

/-- A month ends before the next one begins, and December with the year. -/
theorem daysBeforeMonth_add_le (leap : Bool) {m n : Nat} (hm : 1 ≤ m) (h : m < n) :
    daysBeforeMonth leap m + monthLength leap m ≤ daysBeforeMonth leap n := by
  rw [← daysBeforeMonth_succ leap hm]
  exact daysBeforeMonth_mono leap (Nat.le_add_left 1 m) h

/-- **The search for a month** stops at the last month, or at one that begins on the day or before
it and whose successor begins after it. -/
theorem monthFrom_spec {leap : Bool} {ordinal more month : Nat}
    (h : daysBeforeMonth leap month ≤ ordinal) :
    (month ≤ monthFrom leap ordinal more month ∧
        monthFrom leap ordinal more month ≤ month + more) ∧
      daysBeforeMonth leap (monthFrom leap ordinal more month) ≤ ordinal ∧
      (ordinal < daysBeforeMonth leap (monthFrom leap ordinal more month + 1) ∨
        monthFrom leap ordinal more month = month + more) := by
  induction more generalizing month with
  | zero => exact ⟨⟨Nat.le_refl _, Nat.le_refl _⟩, h, Or.inr rfl⟩
  | succ more ih =>
    rw [monthFrom]
    split
    · next hlt => exact ⟨⟨Nat.le_refl _, by omega⟩, h, Or.inl hlt⟩
    · next hge =>
      obtain ⟨⟨hle, hle'⟩, hbefore, hafter⟩ := ih (Nat.not_lt.mp hge)
      exact ⟨⟨by omega, by omega⟩, hbefore, hafter.imp_right fun heq => by omega⟩

/-- **The month of a day of the year** is one of twelve, and the day lies in it. -/
theorem monthOf_spec {leap : Bool} {ordinal : Nat} (h : ordinal < yearLength leap) :
    (1 ≤ monthOf leap ordinal ∧ monthOf leap ordinal ≤ 12) ∧
      daysBeforeMonth leap (monthOf leap ordinal) ≤ ordinal ∧
      ordinal < daysBeforeMonth leap (monthOf leap ordinal)
        + monthLength leap (monthOf leap ordinal) := by
  obtain ⟨⟨hone, htwelve⟩, hbefore, hafter⟩ :=
    @monthFrom_spec leap ordinal 11 1 (Nat.zero_le ordinal)
  rw [← monthOf] at hone htwelve hbefore hafter
  refine ⟨⟨hone, htwelve⟩, hbefore, ?_⟩
  rw [← daysBeforeMonth_succ leap hone]
  rcases hafter with hlt | heq
  · exact hlt
  · rw [heq]
    exact Nat.lt_of_lt_of_eq h (daysBeforeMonth_thirteen leap).symm

/-- **A day of the year lies in one month only.** -/
theorem monthOf_eq {leap : Bool} {ordinal month : Nat} (hmonth : 1 ≤ month ∧ month ≤ 12)
    (hle : daysBeforeMonth leap month ≤ ordinal)
    (hlt : ordinal < daysBeforeMonth leap month + monthLength leap month) :
    monthOf leap ordinal = month := by
  have hyear := daysBeforeMonth_add_le leap hmonth.1 (Nat.lt_succ_of_le hmonth.2)
  rw [daysBeforeMonth_thirteen] at hyear
  obtain ⟨⟨hone, -⟩, hle', hlt'⟩ := monthOf_spec (Nat.lt_of_lt_of_le hlt hyear)
  rcases Nat.lt_trichotomy (monthOf leap ordinal) month with hbefore | heq | hafter
  · have hmono := daysBeforeMonth_add_le leap hone hbefore
    omega
  · exact heq
  · have hmono := daysBeforeMonth_add_le leap hmonth.1 hafter
    omega

/-! ## Dates -/

namespace Date

variable (d : Date)

theorem ofDay?_day : ofDay? d.day = some d := by
  rw [ofDay?, dif_pos ⟨d.first_le, d.le_last⟩]

theorem firstYear_le_year : firstYear ≤ d.year := by
  by_contra hlt
  have hyear := (daysBeforeYear_yearOf d.day).2
  have hmono := daysBeforeYear_mono (Int.add_one_le_of_lt (Int.not_le.mp hlt))
  have hfirst := d.first_le
  rw [firstDay] at hfirst
  rw [← year] at hyear
  omega

theorem year_le_lastYear : d.year ≤ lastYear := by
  by_contra hlt
  have hyear := (daysBeforeYear_yearOf d.day).1
  have hmono := daysBeforeYear_mono (Int.add_one_le_of_lt (Int.not_le.mp hlt))
  have hlast := d.le_last
  rw [lastDay] at hlast
  rw [← year] at hyear
  omega

/-- The day number is that of 1 January and the day of the year. -/
theorem day_eq : d.day = daysBeforeYear d.year + d.ordinal := by
  have hyear := (daysBeforeYear_yearOf d.day).1
  rw [ordinal, year]
  omega

theorem ordinal_lt : d.ordinal < yearLength (isLeap d.year) := by
  have hyear := (daysBeforeYear_yearOf d.day).2
  have hday := d.day_eq
  rw [daysBeforeYear_succ] at hyear
  rw [year] at hday ⊢
  omega

theorem month_bounds : 1 ≤ d.month ∧ d.month ≤ 12 := (monthOf_spec d.ordinal_lt).1

theorem dayOfMonth_bounds :
    1 ≤ d.dayOfMonth ∧ d.dayOfMonth ≤ monthLength (isLeap d.year) d.month := by
  obtain ⟨-, hbefore, hafter⟩ := monthOf_spec d.ordinal_lt
  rw [dayOfMonth, month]
  omega

/-- **The fields of a date name it.** -/
theorem ofYMD?_fields : ofYMD? d.year d.month d.dayOfMonth = some d := by
  have hmonth := d.month_bounds
  have hday := d.dayOfMonth_bounds
  have hbefore : daysBeforeMonth (isLeap d.year) d.month ≤ d.ordinal :=
    (monthOf_spec d.ordinal_lt).2.1
  have hnumber : daysBeforeYear d.year + daysBeforeMonth (isLeap d.year) d.month
      + (d.dayOfMonth - 1 : Nat) = d.day := by
    rw [day_eq, dayOfMonth]
    omega
  rw [ofYMD?, if_pos ⟨d.firstYear_le_year, d.year_le_lastYear, hmonth.1, hmonth.2, hday.1, hday.2⟩,
    hnumber, ofDay?_day]

variable {d}

theorem day_of_ofDay? {day : Int} (h : ofDay? day = some d) : d.day = day := by
  rw [ofDay?] at h
  split at h
  · rw [← Option.some.inj h]
  · exact nomatch h

/-- **A date is named by its own fields and by no others.** -/
theorem ofYMD?_eq_some_iff {year : Int} {month day : Nat} :
    ofYMD? year month day = some d ↔ d.year = year ∧ d.month = month ∧ d.dayOfMonth = day := by
  constructor
  · intro h
    rw [ofYMD?] at h
    split at h
    · next hfields =>
      obtain ⟨-, -, hone, htwelve, hday, hlength⟩ := hfields
      have hnumber := day_of_ofDay? h
      have hend := daysBeforeMonth_add_le (isLeap year) hone (Nat.lt_succ_of_le htwelve)
      rw [daysBeforeMonth_thirteen] at hend
      have hsucc := daysBeforeYear_succ year
      have hyear : d.year = year := yearOf_eq (by omega) (by omega)
      have hordinal : d.ordinal = daysBeforeMonth (isLeap year) month + (day - 1) := by
        rw [ordinal, hyear]
        omega
      have hmonth : d.month = month := by
        rw [Date.month, hyear]
        exact monthOf_eq ⟨hone, htwelve⟩ (by omega) (by omega)
      refine ⟨hyear, hmonth, ?_⟩
      rw [dayOfMonth, hyear, hmonth, hordinal]
      omega
    · exact nomatch h
  · rintro ⟨rfl, rfl, rfl⟩
    exact d.ofYMD?_fields

end Date

/-! ## Times of day -/

namespace TimeOfDay

variable (t : TimeOfDay)

theorem hour_lt : t.hour < 24 := by
  have h := t.seconds_lt
  rw [secondsPerDay] at h
  rw [hour]
  omega

theorem minute_lt : t.minute < 60 := Nat.mod_lt _ (by decide)

theorem second_lt : t.second < 60 := Nat.mod_lt _ (by decide)

theorem seconds_eq : t.seconds = t.hour * 3600 + t.minute * 60 + t.second := by
  rw [hour, minute, second]
  omega

/-- **A leap second stands at the end of a minute**, if the time lies in one. -/
def Regular : Prop := nanosPerSecond ≤ t.nanos → t.second = 59

instance : Decidable t.Regular := inferInstanceAs (Decidable (_ → _))

/-- **Hour, minute and second name the second**, and the nanoseconds the rest of the time. -/
theorem ofHMS?_fields {nanos : Nat} (h : nanosPerSecond ≤ nanos → t.second = 59) :
    ofHMS? t.hour t.minute t.second nanos = ofSeconds? t.seconds nanos := by
  rw [ofHMS?, if_pos ⟨t.hour_lt, t.minute_lt, t.second_lt, h⟩, ← t.seconds_eq]

variable {t}

theorem eq_of_ofSeconds? {seconds nanos : Nat} (h : ofSeconds? seconds nanos = some t) :
    t.seconds = seconds ∧ t.nanos = nanos := by
  rw [ofSeconds?] at h
  split at h
  · rw [← Option.some.inj h]
    exact ⟨rfl, rfl⟩
  · cases h

/-- **A time of day is named by its own fields and by no others**, if it is regular. -/
theorem ofHMS?_eq_some_iff {hour minute second nanos : Nat} :
    ofHMS? hour minute second nanos = some t ↔
      t.Regular ∧ t.hour = hour ∧ t.minute = minute ∧ t.second = second ∧ t.nanos = nanos := by
  constructor
  · intro h
    rw [ofHMS?] at h
    split at h
    · next hbounds =>
      obtain ⟨hseconds, hnanos⟩ := eq_of_ofSeconds? h
      have hend := hbounds.2.2.2
      rw [Regular, TimeOfDay.hour, TimeOfDay.minute, TimeOfDay.second]
      omega
    · exact nomatch h
  · rintro ⟨hregular, rfl, rfl, rfl, rfl⟩
    rw [ofHMS?_fields t hregular, ofSeconds?_self]

end TimeOfDay

end Formula.Calendar
